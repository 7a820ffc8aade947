import LiveShader.Studio.Studio

/-! A studio together with its service.

The service performs each request at once, but its response waits until it is
delivered, which may be in any order and after any other event. -/

namespace LiveShader

structure Bench (View Service : Type) where
  studio : Studio View
  service : Service
  /-- The responses not yet delivered, oldest first. -/
  waiting : List StudioEvent

namespace Bench

variable {View Service : Type} [ShaderService Service]

/-- Lets the service perform requests; the responses wait. -/
def perform (bench : Bench View Service) : List StudioRequest → Bench View Service
  | [] => bench
  | request :: rest =>
      let (result, service) := ShaderService.perform bench.service request.call
      perform { bench with service, waiting := bench.waiting ++ [request.answered result] } rest

/-- Takes a reaction of the studio over, and performs what it asks for. -/
def settle (bench : Bench View Service) (reaction : Reaction View) : Bench View Service :=
  { bench with studio := reaction.studio }.perform reaction.requests

/-- Takes the waiting response at an index out of the queue. -/
def take? (bench : Bench View Service) (index : Nat) :
    Option (StudioEvent × Bench View Service) :=
  bench.waiting[index]?.map fun event =>
    (event, { bench with waiting := bench.waiting.eraseIdx index })

end Bench

end LiveShader
