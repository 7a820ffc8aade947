import LiveShader.Studio.Studio

/-! # Runs of a studio

A studio is told of commands, of responses and of reports, one at a time and in
any order, until the session ends. Its preview may also change by itself between
two of them. -/

namespace LiveShader

/-- What a studio is told, and what becomes of its preview. -/
inductive StudioInput (View : Type) where
  | event (event : StudioEvent)
  | report (report : RenderEvent)
  /-- The preview changes by itself. -/
  | preview (view : View)

/-- What came of a run. -/
structure StudioOutcome (View : Type) where
  studio : Studio View
  calls : List PreviewCall
  requests : List StudioRequest
  result : Except WindowError Flow

/-! ## Noting what a preview is told -/

/-- A preview that passes on what it is told and notes it. -/
structure NotedPreview (View : Type) where
  view : View
  calls : List PreviewCall

variable {View : Type}

instance [Preview View] : Preview (NotedPreview View) where
  execute noted generation source :=
    let (result, view) := Preview.execute noted.view generation source
    (result, { view, calls := noted.calls ++ [.execute generation source] })
  stop noted :=
    let (result, view) := Preview.stop noted.view
    (result, { view, calls := noted.calls ++ [.stop] })

/-- The same studio with a preview in which nothing was noted yet. -/
def Studio.noted (studio : Studio View) : Studio (NotedPreview View) :=
  { cycle := studio.cycle
    preview := { view := studio.preview, calls := [] }
    autoFix := studio.autoFix
    presets := studio.presets
    renderState := studio.renderState
    lastSource := studio.lastSource
    lastFailure := studio.lastFailure }

def StudioInput.noted : StudioInput View → StudioInput (NotedPreview View)
  | .event told => .event told
  | .report told => .report told
  | .preview view => .preview { view, calls := [] }

/-! ## Runs -/

namespace Studio

variable [Preview View]

def respond (studio : Studio View) : StudioInput View → Reaction View
  | .event event => studio.handle event
  | .report report => studio.onRender report
  | .preview view => .silent { studio with preview := view }

/-- What the preview is told while the studio responds to an input. -/
def calls (studio : Studio View) (input : StudioInput View) : List PreviewCall :=
  (studio.noted.respond input.noted).studio.preview.calls

/-- Responds to inputs until the session ends. -/
def run (studio : Studio View) : List (StudioInput View) → StudioOutcome View
  | [] => { studio, calls := [], requests := [], result := .ok .proceed }
  | input :: rest =>
      let reaction := studio.respond input
      match reaction.result with
      | .ok .proceed =>
          let later := reaction.studio.run rest
          { later with
            calls := studio.calls input ++ later.calls
            requests := reaction.requests ++ later.requests }
      | ending =>
          { studio := reaction.studio
            calls := studio.calls input
            requests := reaction.requests
            result := ending }

variable {studio : Studio View} {input : StudioInput View}

theorem run_cons_of_proceed (proceeds : (studio.respond input).result = .ok .proceed)
    (rest : List (StudioInput View)) :
    studio.run (input :: rest) =
      { (studio.respond input).studio.run rest with
        calls := studio.calls input ++ ((studio.respond input).studio.run rest).calls
        requests := (studio.respond input).requests ++
          ((studio.respond input).studio.run rest).requests } := by
  simp only [run, proceeds]

theorem run_cons_of_ending (ends : (studio.respond input).result ≠ .ok .proceed)
    (rest : List (StudioInput View)) :
    studio.run (input :: rest) =
      { studio := (studio.respond input).studio
        calls := studio.calls input
        requests := (studio.respond input).requests
        result := (studio.respond input).result } := by
  rw [run]
  split
  case h_1 proceeds => exact absurd proceeds ends
  case h_2 => rfl

end Studio

end LiveShader
