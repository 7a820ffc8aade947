/-! # Pasts

A past lists what has happened so far, oldest first. A rule tells whether
something may happen in the light of what came before it. -/

namespace LiveShader

variable {Event : Type} {rule : List Event → Event → Prop} {past : List Event}

/-- Everything in a past followed a rule when it happened. -/
def Obeys (rule : List Event → Event → Prop) (past : List Event) : Prop :=
  ∀ early event late, past = early ++ event :: late → rule early event

/-- Two elements of a list stand at one place or one behind the other. -/
theorem cons_split {early late before after : List Event} {first second : Event}
    (split : early ++ first :: late = before ++ second :: after) :
    (early = before ∧ first = second) ∨
      (∃ between, before = early ++ first :: between ∧ late = between ++ second :: after) ∨
      ∃ between, early = before ++ second :: between ∧ after = between ++ first :: late := by
  rcases List.append_eq_append_iff.mp split with ⟨middle, longer, rest⟩ | ⟨middle, longer, rest⟩
  · cases middle with
    | nil =>
        cases rest
        exact .inl ⟨by simp [longer], rfl⟩
    | cons head between =>
        cases rest
        exact .inr (.inl ⟨between, longer, rfl⟩)
  · cases middle with
    | nil =>
        cases rest
        exact .inl ⟨by simp [longer], rfl⟩
    | cons head between =>
        cases rest
        exact .inr (.inr ⟨between, longer, rfl⟩)

/-- A list that got one more element is split at that element or before it. -/
theorem append_singleton_split {early late : List Event} {last chosen : Event}
    (split : past ++ [last] = early ++ chosen :: late) :
    (past = early ∧ last = chosen) ∨ ∃ rest, past = early ++ chosen :: rest := by
  rcases cons_split split with same | ⟨between, _, nothing⟩ | ⟨between, earlier, _⟩
  · exact .inl same
  · simp at nothing
  · exact .inr ⟨between, earlier⟩

theorem obeys_nil : Obeys rule [] := by
  intro early event late split
  simp at split

theorem Obeys.snoc (obeys : Obeys rule past) {event : Event} (follows : rule past event) :
    Obeys rule (past ++ [event]) := by
  intro early chosen late split
  rcases append_singleton_split split with ⟨rfl, rfl⟩ | ⟨rest, earlier⟩
  · exact follows
  · exact obeys early chosen rest earlier

end LiveShader
