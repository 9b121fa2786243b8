import Mathlib.Data.List.Induction

/-!
# Talking about the past of a run

A property of an event may depend on everything before it, so it is a predicate of the
events so far and the event itself. `Once P` says that such an event has happened, and
`Since P Q` that one has happened and nothing like `Q` after it. Both are read off from
the last event (`once_concat`, `since_concat`), which is how they go through inductions
over runs.
-/

namespace HomePairing.History

variable {Event : Type} {P Q : List Event → Event → Prop}

/-- Something like `P` has happened. -/
def Once (P : List Event → Event → Prop) (events : List Event) : Prop :=
  ∃ before event after, events = before ++ event :: after ∧ P before event

/-- Something like `P` has happened, and nothing like `Q` after it. -/
def Since (P Q : List Event → Event → Prop) (events : List Event) : Prop :=
  ∃ before event after, events = before ++ event :: after ∧ P before event ∧
    ∀ first next rest, after = first ++ next :: rest → ¬ Q (before ++ event :: first) next

/-- An event of a longer history is the last one, or one of the shorter history. -/
theorem concat_eq_append_cons {events before after : List Event} {last event : Event} :
    events ++ [last] = before ++ event :: after ↔
      (after = [] ∧ before = events ∧ event = last) ∨
        ∃ rest, after = rest ++ [last] ∧ events = before ++ event :: rest := by
  rcases List.eq_nil_or_concat after with rfl | ⟨rest, other, rfl⟩
  · constructor
    · intro same
      obtain ⟨init, tail⟩ := List.append_singleton_inj.mp same
      exact .inl ⟨rfl, init.symm, tail.symm⟩
    · rintro (⟨_, rfl, rfl⟩ | ⟨rest, absent, _⟩)
      · rfl
      · simp at absent
  · have regroup : before ++ event :: (rest ++ [other]) = (before ++ event :: rest) ++ [other] := by
      simp
    rw [List.concat_eq_append, regroup, List.append_singleton_inj]
    constructor
    · rintro ⟨rfl, rfl⟩
      exact .inr ⟨rest, rfl, rfl⟩
    · rintro (⟨absent, _⟩ | ⟨shorter, same, rfl⟩)
      · simp at absent
      · obtain ⟨rfl, rfl⟩ := List.append_singleton_inj.mp same
        exact ⟨rfl, rfl⟩

@[simp] theorem not_once_nil : ¬ Once P [] := by
  rintro ⟨before, event, after, same, _⟩
  simp at same

theorem once_concat {events : List Event} {event : Event} :
    Once P (events ++ [event]) ↔ Once P events ∨ P events event := by
  constructor
  · rintro ⟨before, found, after, same, holds⟩
    rcases concat_eq_append_cons.mp same with ⟨_, rfl, rfl⟩ | ⟨rest, _, shorter⟩
    · exact .inr holds
    · exact .inl ⟨before, found, rest, shorter, holds⟩
  · rintro (⟨before, found, after, rfl, holds⟩ | holds)
    · exact ⟨before, found, after ++ [event], by simp, holds⟩
    · exact ⟨events, event, [], rfl, holds⟩

@[simp] theorem not_since_nil : ¬ Since P Q [] := by
  rintro ⟨before, event, after, same, _⟩
  simp at same

theorem since_concat {events : List Event} {event : Event} :
    Since P Q (events ++ [event]) ↔ P events event ∨ (Since P Q events ∧ ¬ Q events event) := by
  constructor
  · rintro ⟨before, found, after, same, holds, quiet⟩
    rcases concat_eq_append_cons.mp same with ⟨_, rfl, rfl⟩ | ⟨rest, rfl, rfl⟩
    · exact .inl holds
    · refine .inr ⟨⟨before, found, rest, rfl, holds, ?_⟩, quiet rest event [] rfl⟩
      rintro first next others rfl
      exact quiet first next (others ++ [event]) (by simp)
  · rintro (holds | ⟨⟨before, found, after, rfl, holds, quiet⟩, last⟩)
    · exact ⟨events, event, [], rfl, holds, by simp⟩
    · refine ⟨before, found, after ++ [event], by simp, holds, fun first next rest same => ?_⟩
      rcases concat_eq_append_cons.mp same with ⟨_, rfl, rfl⟩ | ⟨others, _, shorter⟩
      · exact last
      · exact quiet first next others shorter

/-- What has held since some event goes on to hold until something like `Q` happens. -/
theorem Since.concat {events : List Event} {event : Event} (h : Since P Q events)
    (quiet : ¬ Q events event) : Since P Q (events ++ [event]) :=
  since_concat.mpr (.inr ⟨h, quiet⟩)

theorem Once.concat {events : List Event} (h : Once P events) (event : Event) :
    Once P (events ++ [event]) :=
  once_concat.mpr (.inl h)

end HomePairing.History
