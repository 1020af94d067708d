import InkProject.Proofs.Json.RoundTrip
import InkProject.Story.Globals
set_option autoImplicit false

namespace InkProject.Story

open Json

variable {depth : Nat}

theorem literal_fits {before : List Json} (fit : ∀ item ∈ before, Fits depth item) : Fits depth (literal before) := by
  rw [literal.eq_def]
  split
  · exact .null
  · split
    · split
      · exact .string _
      · exact .null
    · split
      · exact .null
      · exact .string _
  · exact fit _ List.mem_cons_self

theorem declareFrom_ordered {before items : List Json} {globals declared : Table Json} (ordered : globals.Ordered)
    (done : declareFrom before globals items = .ok declared) : declared.Ordered := by
  induction items generalizing before globals with
  | nil =>
    cases done
    exact ordered
  | cons item items ih =>
    rw [declareFrom] at done
    split at done
    · exact ih ordered done
    · split at done
      · cases done
      · exact ih (Table.insert_ordered _ _ ordered) done

theorem declareFrom_fits {before items : List Json} {globals declared : Table Json}
    (earlier : ∀ item ∈ before, Fits depth item) (later : ∀ item ∈ items, Fits depth item)
    (fit : ∀ entry ∈ globals, Fits depth entry.2) (done : declareFrom before globals items = .ok declared) :
    ∀ entry ∈ declared, Fits depth entry.2 := by
  induction items generalizing before globals with
  | nil =>
    cases done
    exact fit
  | cons item items ih =>
    have passed : ∀ other ∈ item :: before, Fits depth other := by
      intro other member
      rcases List.mem_cons.mp member with rfl | inside
      · exact later _ List.mem_cons_self
      · exact earlier other inside
    have rest : ∀ other ∈ items, Fits depth other := fun other inside => later other (List.mem_cons_of_mem _ inside)
    rw [declareFrom] at done
    split at done
    · exact ih passed rest fit done
    · split at done
      · cases done
      · refine ih passed rest (fun entry member => ?_) done
        rcases Table.mem_insert member with rfl | inside
        · exact literal_fits earlier
        · exact fit entry inside

theorem declaredGlobals_ordered {root : List Json} {globals : Table Json} (done : declaredGlobals root = .ok globals) :
    globals.Ordered := by
  rw [declaredGlobals] at done
  split at done
  · cases done
    exact Table.ordered_nil
  · exact declareFrom_ordered Table.ordered_nil done
  · cases done

theorem declaredGlobals_fits {root : List Json} {globals : Table Json} (fit : ∀ item ∈ root, Fits (depth + 3) item)
    (done : declaredGlobals root = .ok globals) : ∀ entry ∈ globals, Fits (depth + 1) entry.2 := by
  rw [declaredGlobals] at done
  split at done
  · cases done
    simp
  · rename_i items found
    obtain ⟨last, ends, named⟩ := Option.bind_eq_some_iff.mp found
    have last := fit last (List.mem_of_getLast? ends)
    rw [member?.eq_def] at named
    split at named
    · obtain ⟨_, inside⟩ := Fits.object_iff.mp last
      have declarations := Fits.array_iff.mp (inside _ (Table.mem_of_find? named))
      exact declareFrom_fits (by simp) declarations (by simp) done
    · cases named
  · cases done

end InkProject.Story
