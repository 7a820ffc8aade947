import Mathlib.Algebra.Group.Nat.Defs
import LiveShader.Proofs.Service.Progress

/-! # The attempts of a generation

A cycle counts the fixes in flight and the fixes applied, while its tickets name
nothing but a generation. Here a cycle stands beside a ledger of every fix it was
asked for. Whatever the order of the responses, the two counters are the open and
the successful entries of the current generation, and no generation gets more fixes
than the cycle allows. -/

namespace LiveShader

def Resolution.isApply : Resolution → Bool
  | .apply _ => true
  | _ => false

/-- A fix that was asked for. -/
structure AskedFix where
  request : FixRequest
  /-- The response and what was made of it, once there was one. -/
  answer : Option (Except ServiceError String × Resolution)

namespace AskedFix

def isOf (generation : Nat) (fix : AskedFix) : Bool :=
  fix.request.ticket.generation == generation

def isOpen (fix : AskedFix) : Bool :=
  fix.answer.isNone

def isSuccessful (fix : AskedFix) : Bool :=
  fix.answer.any fun answer => answer.1.isOk

def isApplied (fix : AskedFix) : Bool :=
  fix.answer.any fun answer => answer.2.isApply

end AskedFix

/-- A cycle with every fix it was asked for, oldest first. -/
structure FixLedger where
  cycle : FixCycle
  asked : List AskedFix

inductive CycleCall where
  | beginGenerate (description : String)
  | beginFix (code diagnostic : String)
  | completeGenerate (ticket : Ticket) (result : Except ServiceError String)
  /-- The response to one of the fixes asked for. -/
  | completeFix (index : Nat) (result : Except ServiceError String)

namespace FixLedger

def create (maxAttempts : Nat) : FixLedger :=
  { cycle := .create maxAttempts, asked := [] }

def countOf (ledger : FixLedger) (generation : Nat) (property : AskedFix → Bool) : Nat :=
  ledger.asked.countP fun fix => fix.isOf generation && property fix

def answer (ledger : FixLedger) (cycle : FixCycle) (index : Nat) (fix : AskedFix)
    (result : Except ServiceError String) (resolution : Resolution) : FixLedger :=
  { cycle, asked := ledger.asked.set index { fix with answer := some (result, resolution) } }

def perform (ledger : FixLedger) : CycleCall → FixLedger
  | .beginGenerate description =>
      { ledger with cycle := (ledger.cycle.beginGenerate description).2 }
  | .beginFix code diagnostic =>
      match ledger.cycle.beginFix code diagnostic with
      | (.ok request, cycle) => { cycle, asked := ledger.asked ++ [{ request, answer := none }] }
      | (.error _, cycle) => { ledger with cycle }
  | .completeGenerate ticket result =>
      { ledger with cycle := (ledger.cycle.completeGenerate ticket result).2 }
  | .completeFix index result =>
      match ledger.asked[index]? with
      | none => ledger
      | some fix =>
          let (resolution, cycle) := ledger.cycle.completeFix fix.request.ticket result
          ledger.answer cycle index fix result resolution

/-- Whether a call can come: a response answers a fix that was asked for and has no
response yet. -/
def Permits (ledger : FixLedger) : CycleCall → Prop
  | .completeFix index _ => ∃ fix, ledger.asked[index]? = some fix ∧ fix.answer = none
  | _ => True

def after (ledger : FixLedger) (calls : List CycleCall) : FixLedger :=
  calls.foldl perform ledger

/-- Whether each call of a sequence can come when it does. So every fix is answered
at most once, at any time and in any order. -/
def PermitsAll (ledger : FixLedger) : List CycleCall → Prop
  | [] => True
  | call :: rest => ledger.Permits call ∧ (ledger.perform call).PermitsAll rest

@[simp] theorem answer_cycle (ledger : FixLedger) (cycle : FixCycle) (index : Nat)
    (fix : AskedFix) (result : Except ServiceError String) (resolution : Resolution) :
    (ledger.answer cycle index fix result resolution).cycle = cycle := rfl

/-! ## Counting entries -/

section

variable {ledger : FixLedger} (generation : Nat) (property : AskedFix → Bool)

theorem countOf_eq_zero (foreign : ∀ fix ∈ ledger.asked,
    fix.request.ticket.generation ≠ generation) : ledger.countOf generation property = 0 := by
  apply List.countP_eq_zero.mpr
  intro fix member
  simp [AskedFix.isOf, foreign fix member]

theorem countOf_append (cycle : FixCycle) (fix : AskedFix) :
    countOf { cycle, asked := ledger.asked ++ [fix] } generation property =
      ledger.countOf generation property +
        if fix.isOf generation && property fix then 1 else 0 := by
  simp only [countOf, List.countP_append, List.countP_singleton]

variable {index : Nat} {fix : AskedFix} (found : ledger.asked[index]? = some fix)
  (cycle : FixCycle)

include found

/-- Writing into an entry changes each count by what the entry counted before and
counts now. -/
theorem countOf_set (written : AskedFix) :
    (countOf { cycle, asked := ledger.asked.set index written } generation property +
        if fix.isOf generation && property fix then 1 else 0) =
      ledger.countOf generation property +
        if written.isOf generation && property written then 1 else 0 := by
  rcases List.getElem?_eq_some_iff.mp found with ⟨inside, same⟩
  simp only [countOf, List.countP_set inside, same]
  split
  case isFalse => omega
  case isTrue counted =>
    have positive : 0 < ledger.asked.countP fun fix => fix.isOf generation && property fix :=
      List.countP_pos_iff.mpr ⟨fix, List.mem_of_getElem? found, counted⟩
    omega

variable (opened : fix.answer = none) (result : Except ServiceError String)
  (resolution : Resolution)

include opened

theorem countOf_answer_isOpen :
    ((ledger.answer cycle index fix result resolution).countOf generation AskedFix.isOpen +
        if fix.isOf generation then 1 else 0) =
      ledger.countOf generation AskedFix.isOpen := by
  simpa [AskedFix.isOf, AskedFix.isOpen, opened, answer] using
    countOf_set generation AskedFix.isOpen found cycle
      { fix with answer := some (result, resolution) }

theorem countOf_answer_any (kind : Except ServiceError String × Resolution → Bool) :
    (ledger.answer cycle index fix result resolution).countOf generation
        (fun fix => fix.answer.any kind) =
      ledger.countOf generation (fun fix => fix.answer.any kind) +
        if fix.isOf generation && kind (result, resolution) then 1 else 0 := by
  simpa [AskedFix.isOf, opened, answer] using
    countOf_set generation (fun fix => fix.answer.any kind) found cycle
      { fix with answer := some (result, resolution) }

theorem countOf_answer_isSuccessful :
    (ledger.answer cycle index fix result resolution).countOf generation
        AskedFix.isSuccessful =
      ledger.countOf generation AskedFix.isSuccessful +
        if fix.isOf generation && result.isOk then 1 else 0 :=
  countOf_answer_any generation found cycle opened result resolution fun answer => answer.1.isOk

theorem countOf_answer_isApplied :
    (ledger.answer cycle index fix result resolution).countOf generation AskedFix.isApplied =
      ledger.countOf generation AskedFix.isApplied +
        if fix.isOf generation && resolution.isApply then 1 else 0 :=
  countOf_answer_any generation found cycle opened result resolution fun answer => answer.2.isApply

end

/-! ## The account of a ledger -/

/-- The counters of a cycle agree with its ledger. -/
structure IsAccounted (maxAttempts : Nat) (ledger : FixLedger) : Prop where
  bound : ledger.cycle.maxAttempts = maxAttempts
  inFlight : ledger.cycle.inFlight = ledger.countOf ledger.cycle.generation AskedFix.isOpen
  successful : ledger.cycle.attemptsUsed =
    ledger.countOf ledger.cycle.generation AskedFix.isSuccessful
  ceiling : ledger.cycle.attemptsUsed + ledger.cycle.inFlight ≤ maxAttempts
  appliedNow : ledger.countOf ledger.cycle.generation AskedFix.isApplied =
    ledger.cycle.attemptsUsed
  applied : ∀ generation, ledger.countOf generation AskedFix.isApplied ≤ maxAttempts
  known : ∀ fix ∈ ledger.asked, fix.request.ticket.generation ≤ ledger.cycle.generation

namespace IsAccounted

variable {maxAttempts : Nat} {ledger : FixLedger}

theorem create (maxAttempts : Nat) : (FixLedger.create maxAttempts).IsAccounted maxAttempts where
  bound := rfl
  inFlight := rfl
  successful := rfl
  ceiling := Nat.zero_le _
  appliedNow := rfl
  applied := fun _ => Nat.zero_le _
  known := by simp [FixLedger.create]

theorem countOf_next (accounted : ledger.IsAccounted maxAttempts) (property : AskedFix → Bool) :
    ledger.countOf (ledger.cycle.generation + 1) property = 0 := by
  apply countOf_eq_zero
  intro fix member
  have earlier := accounted.known fix member
  omega

theorem beginGenerate (accounted : ledger.IsAccounted maxAttempts) (description : String) :
    (ledger.perform (.beginGenerate description)).IsAccounted maxAttempts := by
  by_cases blank : Text.isBlankString description
  · simp only [perform, FixCycle.beginGenerate_of_blank blank]
    exact accounted
  · simp only [perform, FixCycle.beginGenerate_of_not_blank blank]
    exact
      { bound := accounted.bound
        inFlight := (accounted.countOf_next _).symm
        successful := (accounted.countOf_next _).symm
        ceiling := Nat.zero_le _
        appliedNow := accounted.countOf_next _
        applied := accounted.applied
        known := fun fix member => Nat.le_succ_of_le (accounted.known fix member) }

theorem beginFix (accounted : ledger.IsAccounted maxAttempts) (code diagnostic : String) :
    (ledger.perform (.beginFix code diagnostic)).IsAccounted maxAttempts := by
  by_cases left : ledger.cycle.attemptsUsed + ledger.cycle.inFlight < ledger.cycle.maxAttempts
  · simp only [perform, FixCycle.beginFix_of_left code diagnostic left]
    exact
      { bound := accounted.bound
        inFlight := by
          rw [countOf_append, ← accounted.inFlight]
          simp [AskedFix.isOf, AskedFix.isOpen, FixCycle.ticket]
        successful := by
          rw [countOf_append, ← accounted.successful]
          simp [AskedFix.isSuccessful]
        ceiling := by
          have bound := accounted.bound
          simp only
          omega
        appliedNow := by
          rw [countOf_append, accounted.appliedNow]
          simp [AskedFix.isApplied]
        applied := by
          intro generation
          rw [countOf_append]
          simpa [AskedFix.isApplied] using accounted.applied generation
        known := by
          intro fix member
          rcases List.mem_append.mp member with earlier | now
          · exact accounted.known fix earlier
          · cases List.mem_singleton.mp now
            exact Nat.le_refl _ }
  · simp only [perform, FixCycle.beginFix_of_exhausted code diagnostic (Nat.le_of_not_lt left)]
    exact accounted

section

variable {index : Nat} {fix : AskedFix} {cycle : FixCycle}
variable {result : Except ServiceError String} {resolution : Resolution}
variable (accounted : ledger.IsAccounted maxAttempts)
  (found : ledger.asked[index]? = some fix) (opened : fix.answer = none)

include accounted found opened

/-- A fix whose answer comes in its own generation is one of those in flight. -/
theorem inFlight_pos (current : fix.request.ticket.generation = ledger.cycle.generation) :
    0 < ledger.cycle.inFlight := by
  have counted : fix.isOf ledger.cycle.generation && fix.isOpen := by
    simp [AskedFix.isOf, AskedFix.isOpen, current, opened]
  rw [accounted.inFlight]
  exact List.countP_pos_iff.mpr ⟨fix, List.mem_of_getElem? found, counted⟩

/-- An answer keeps the account when the cycle gives up the reserved attempt of its
own generation, and uses an attempt exactly for what it applies. -/
theorem answer (generation : cycle.generation = ledger.cycle.generation)
    (bound : cycle.maxAttempts = ledger.cycle.maxAttempts)
    (returned : (cycle.inFlight + if fix.isOf ledger.cycle.generation then 1 else 0) =
      ledger.cycle.inFlight)
    (used : cycle.attemptsUsed = ledger.cycle.attemptsUsed +
      if fix.isOf ledger.cycle.generation && result.isOk then 1 else 0)
    (applies : resolution.isApply = (fix.isOf ledger.cycle.generation && result.isOk)) :
    (ledger.answer cycle index fix result resolution).IsAccounted maxAttempts := by
  have ceiling : cycle.attemptsUsed + cycle.inFlight ≤ maxAttempts := by
    have before := accounted.ceiling
    revert returned used
    cases fix.isOf ledger.cycle.generation <;> cases result.isOk <;>
      simp only [Bool.and_true, Bool.and_false, if_true, if_false, Bool.false_eq_true] <;>
      omega
  have appliedNow : (ledger.answer cycle index fix result resolution).countOf
      ledger.cycle.generation AskedFix.isApplied = cycle.attemptsUsed := by
    rw [countOf_answer_isApplied _ found cycle opened, applies, used, accounted.appliedNow]
    simp
  exact
    { bound := bound.trans accounted.bound
      inFlight := by
        have before := accounted.inFlight
        have now := countOf_answer_isOpen ledger.cycle.generation found cycle opened result
          resolution
        simp only [answer_cycle, generation]
        omega
      successful := by
        simp only [answer_cycle, generation]
        rw [countOf_answer_isSuccessful _ found cycle opened, used, accounted.successful]
      ceiling
      appliedNow := by
        simpa only [answer_cycle, generation] using appliedNow
      applied := by
        intro other
        by_cases now : other = ledger.cycle.generation
        · rw [now, appliedNow]
          exact Nat.le_of_add_right_le ceiling
        · -- What is applied belongs to the current generation.
          have foreign : (fix.isOf other && resolution.isApply) = false := by
            rw [applies]
            simp only [AskedFix.isOf]
            grind
          rw [countOf_answer_isApplied _ found cycle opened, foreign]
          exact accounted.applied other
      known := by
        intro other member
        simp only [answer_cycle, generation]
        rcases List.mem_or_eq_of_mem_set member with earlier | rfl
        · exact accounted.known other earlier
        · exact accounted.known fix (List.mem_of_getElem? found) }

theorem completeFix (result : Except ServiceError String) :
    (ledger.perform (.completeFix index result)).IsAccounted maxAttempts := by
  simp only [perform, found]
  by_cases current : fix.request.ticket.generation = ledger.cycle.generation
  · have own : fix.isOf ledger.cycle.generation = true := by simp [AskedFix.isOf, current]
    have flying := accounted.inFlight_pos found opened current
    cases result with
    | ok text =>
        rw [FixCycle.completeFix_of_ok current]
        refine accounted.answer found opened rfl rfl ?_ ?_ ?_
        · simp only [own, if_true]
          omega
        · simp [own, Except.isOk, Except.toBool]
        · simp [own, Resolution.isApply, Except.isOk, Except.toBool]
    | error error =>
        rw [FixCycle.completeFix_of_error current]
        refine accounted.answer found opened rfl rfl ?_ ?_ ?_
        · simp only [own, if_true]
          omega
        · simp [Except.isOk, Except.toBool]
        · simp [Resolution.isApply, Except.isOk, Except.toBool]
  · have foreign : fix.isOf ledger.cycle.generation = false := by simp [AskedFix.isOf, current]
    rw [FixCycle.completeFix_of_stale current]
    refine accounted.answer found opened rfl rfl ?_ ?_ ?_
    · simp [foreign]
    · simp [foreign]
    · simp [foreign, Resolution.isApply]

end

theorem perform (accounted : ledger.IsAccounted maxAttempts) {call : CycleCall}
    (permitted : ledger.Permits call) : (ledger.perform call).IsAccounted maxAttempts := by
  cases call with
  | beginGenerate description => exact accounted.beginGenerate description
  | beginFix code diagnostic => exact accounted.beginFix code diagnostic
  | completeGenerate ticket result =>
      simp only [FixLedger.perform, FixCycle.completeGenerate_cycle]
      exact accounted
  | completeFix index result =>
      rcases permitted with ⟨fix, found, opened⟩
      exact accounted.completeFix found opened result

theorem after (accounted : ledger.IsAccounted maxAttempts) {calls : List CycleCall}
    (permitted : ledger.PermitsAll calls) : (ledger.after calls).IsAccounted maxAttempts := by
  induction calls generalizing ledger with
  | nil => exact accounted
  | cons call rest induction => exact induction (accounted.perform permitted.1) permitted.2

end IsAccounted

/-! ## Balance -/

/-- What the two counters of a cycle mean, and what they keep to. -/
structure IsBalanced (maxAttempts : Nat) (ledger : FixLedger) : Prop where
  inFlight : ledger.cycle.inFlight = ledger.countOf ledger.cycle.generation AskedFix.isOpen
  attemptsUsed : ledger.cycle.attemptsUsed =
    ledger.countOf ledger.cycle.generation AskedFix.isSuccessful
  ceiling : ledger.cycle.attemptsUsed + ledger.cycle.inFlight ≤ maxAttempts
  /-- A ceiling of 32 bits leaves room for the sum. -/
  fits : maxAttempts < 2 ^ 32 → ledger.cycle.attemptsUsed + ledger.cycle.inFlight < 2 ^ 32
  /-- What remains is an exact difference. -/
  remaining : ledger.cycle.attemptsUsed + ledger.cycle.inFlight + ledger.cycle.remaining =
    maxAttempts
  /-- An answer that is still to come gives back an attempt that is reserved. -/
  reserved : ∀ fix ∈ ledger.asked, fix.answer = none →
    fix.request.ticket.generation = ledger.cycle.generation → 0 < ledger.cycle.inFlight
  begins : ∀ code diagnostic,
    (∃ request, (ledger.cycle.beginFix code diagnostic).1 = .ok request) ↔
      0 < ledger.cycle.remaining
  applied : ∀ generation, ledger.countOf generation AskedFix.isApplied ≤ maxAttempts

theorem IsAccounted.isBalanced {maxAttempts : Nat} {ledger : FixLedger}
    (accounted : ledger.IsAccounted maxAttempts) : ledger.IsBalanced maxAttempts where
  inFlight := accounted.inFlight
  attemptsUsed := accounted.successful
  ceiling := accounted.ceiling
  fits := Nat.lt_of_le_of_lt accounted.ceiling
  remaining := by
    have bound := accounted.bound
    have ceiling := accounted.ceiling
    simp only [FixCycle.remaining]
    omega
  reserved := by
    intro fix member opened current
    rcases List.mem_iff_getElem?.mp member with ⟨index, found⟩
    exact accounted.inFlight_pos found opened current
  begins := ledger.cycle.beginFix_ok_iff
  applied := accounted.applied

/-- Whatever the order in which fixes are asked for and answered, across any number of
prompts, the counters are balanced and the ceiling holds. -/
theorem isBalanced_after {maxAttempts : Nat} {calls : List CycleCall}
    (permitted : (create maxAttempts).PermitsAll calls) :
    ((create maxAttempts).after calls).IsBalanced maxAttempts :=
  ((IsAccounted.create maxAttempts).after permitted).isBalanced

/-- Two fixes overlap, one of them is answered before the next prompt and one after
it, and a fix of the new generation fails. -/
theorem isBalanced_after_overlap :
    let calls : List CycleCall :=
      [.beginFix "a" "e", .beginFix "b" "e", .completeFix 1 (.ok "B"), .beginGenerate "waves",
        .beginFix "c" "e", .completeFix 0 (.ok "A"), .completeFix 2 (.error (.decode ""))]
    (create 2).PermitsAll calls ∧ ((create 2).after calls).countOf 0 AskedFix.isApplied = 1 ∧
      ((create 2).after calls).IsBalanced 2 := by
  intro calls
  have permitted : (create 2).PermitsAll calls :=
    ⟨trivial, trivial, ⟨_, rfl, rfl⟩, trivial, trivial, ⟨_, rfl, rfl⟩, ⟨_, rfl, rfl⟩, trivial⟩
  exact ⟨permitted, rfl, isBalanced_after permitted⟩

end FixLedger

end LiveShader
