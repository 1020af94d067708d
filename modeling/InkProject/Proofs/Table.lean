import InkProject.Table
import Mathlib.Data.String.Basic
set_option autoImplicit false

namespace InkProject.Table

variable {α : Type}

instance (table : Table α) : Decidable table.Ordered := inferInstanceAs (Decidable (List.Pairwise _ _))

theorem mem_of_find? {key : String} {value : α} {table : Table α} (found : find? key table = some value) :
    (key, value) ∈ table := by
  induction table with
  | nil => cases found
  | cons entry rest ih =>
    rw [find?] at found
    split at found
    · rename_i same
      cases found
      rw [← same]
      exact List.mem_cons_self
    · exact List.mem_cons_of_mem _ (ih found)

theorem lookup_eq_find? (key : String) (table : Table α) : table.lookup key = find? key table := by
  induction table with
  | nil => rfl
  | cons entry rest ih =>
    rw [List.lookup_cons, find?, ih]
    by_cases same : entry.1 = key
    · simp [same]
    · simp [same, beq_eq_false_iff_ne.mpr (Ne.symm same)]

theorem find?_eq_none (key : String) (table : Table α) : find? key table = none ↔ key ∉ keys table := by
  induction table with
  | nil => simp [find?, keys]
  | cons entry rest ih =>
    by_cases same : entry.1 = key
    · simp [find?, keys, same]
    · simp only [find?, if_neg same, ih, keys, List.map_cons, List.mem_cons, not_or]
      exact ⟨fun absent => ⟨fun equal => same equal.symm, absent⟩, fun both => both.2⟩

theorem contains_iff (table : Table α) (key : String) : table.contains key = true ↔ key ∈ keys table := by
  rw [contains, Option.isSome_iff_ne_none, Ne, find?_eq_none, not_not]

theorem find?_of_mem {key : String} {value : α} {table : Table α} (distinct : (keys table).Nodup)
    (member : (key, value) ∈ table) : find? key table = some value := by
  induction table with
  | nil => cases member
  | cons entry rest ih =>
    obtain ⟨fresh, distinct⟩ := List.nodup_cons.mp distinct
    rcases List.mem_cons.mp member with rfl | inside
    · simp [find?]
    · have different : entry.1 ≠ key := by
        intro same
        apply fresh
        rw [same]
        exact List.mem_map.mpr ⟨_, inside, rfl⟩
      rw [find?, if_neg different]
      exact ih distinct inside

theorem Ordered.distinct {table : Table α} (ordered : Ordered table) : (keys table).Nodup :=
  List.Pairwise.imp ne_of_lt ordered

theorem ordered_nil : Ordered ([] : Table α) := List.Pairwise.nil

theorem mem_insert {key : String} {value : α} {table : Table α} {entry : String × α}
    (member : entry ∈ insert key value table) : entry = (key, value) ∨ entry ∈ table := by
  induction table with
  | nil => exact .inl (List.mem_singleton.mp member)
  | cons old rest ih =>
    rw [insert] at member
    split at member
    · rcases List.mem_cons.mp member with same | inside
      · exact .inl same
      · exact .inr (List.mem_cons_of_mem _ inside)
    · split at member
      · exact List.mem_cons.mp member
      · rcases List.mem_cons.mp member with rfl | inside
        · exact .inr List.mem_cons_self
        · exact (ih inside).imp_right fun there => List.mem_cons_of_mem _ there

theorem insert_ordered (key : String) (value : α) {table : Table α} (ordered : Ordered table) :
    Ordered (insert key value table) := by
  induction table with
  | nil => exact List.pairwise_singleton _ _
  | cons old rest ih =>
    obtain ⟨first, ordered⟩ := List.pairwise_cons.mp ordered
    by_cases same : key = old.1
    · rw [insert, if_pos same]
      exact List.pairwise_cons.mpr ⟨same ▸ first, ordered⟩
    · by_cases less : key < old.1
      · rw [insert, if_neg same, if_pos less]
        apply List.pairwise_cons.mpr
        refine ⟨fun other member => ?_, List.pairwise_cons.mpr ⟨first, ordered⟩⟩
        rcases List.mem_cons.mp member with equal | inside
        · exact equal ▸ less
        · exact less.trans (first other inside)
      · rw [insert, if_neg same, if_neg less]
        apply List.pairwise_cons.mpr
        refine ⟨fun other member => ?_, ih ordered⟩
        obtain ⟨entry, inside, rfl⟩ := List.mem_map.mp member
        rcases mem_insert inside with rfl | there
        · exact lt_of_le_of_ne (not_lt.mp less) (Ne.symm same)
        · exact first _ (List.mem_map.mpr ⟨_, there, rfl⟩)

theorem overlay_ordered {table : Table α} (ordered : Ordered table) (entries : Table α) :
    Ordered (table.overlay entries) := by
  induction entries generalizing table with
  | nil => exact ordered
  | cons entry entries ih => exact ih (insert_ordered _ _ ordered)

theorem mem_overlay {table entries : Table α} {entry : String × α} (member : entry ∈ table.overlay entries) :
    entry ∈ table ∨ entry ∈ entries := by
  induction entries generalizing table with
  | nil => exact .inl member
  | cons first entries ih =>
    rcases ih member with inside | there
    · rcases mem_insert inside with rfl | there
      · exact .inr List.mem_cons_self
      · exact .inl there
    · exact .inr (List.mem_cons_of_mem _ there)

theorem find?_overlay (table : Table α) {entries : Table α} (distinct : (keys entries).Nodup) (key : String) :
    find? key (table.overlay entries) = (find? key entries).or (find? key table) := by
  induction entries generalizing table with
  | nil => rfl
  | cons entry entries ih =>
    obtain ⟨fresh, distinct⟩ := List.nodup_cons.mp distinct
    rw [overlay, ih _ distinct, find?]
    by_cases same : entry.1 = key
    · subst same
      rw [(find?_eq_none _ _).mpr fresh, if_pos rfl, find?_insert_self, Option.none_or, Option.some_or]
    · rw [if_neg same, find?_insert_other _ _ _ _ (Ne.symm same)]

theorem contains_insert (key : String) (value : α) (table : Table α) (other : String) :
    (table.insert key value).contains other = true ↔ other = key ∨ table.contains other = true := by
  by_cases same : other = key
  · simp [contains, same, find?_insert_self]
  · simp [contains, same, find?_insert_other]

theorem contains_overlay (table entries : Table α) (key : String) :
    (table.overlay entries).contains key = (entries.contains key || table.contains key) := by
  induction entries generalizing table with
  | nil => rfl
  | cons entry entries ih =>
    rw [overlay, ih]
    by_cases same : entry.1 = key
    · subst same
      simp [contains, find?, find?_insert_self]
    · rw [contains, contains, contains, contains, find?, if_neg same, find?_insert_other _ _ _ _ (Ne.symm same)]

theorem find?_overlay_missing (table : Table α) {entries : Table α} {key : String}
    (missing : entries.contains key = false) : find? key (table.overlay entries) = find? key table := by
  induction entries generalizing table with
  | nil => rfl
  | cons entry entries ih =>
    by_cases same : entry.1 = key
    · simp [contains, find?, same] at missing
    · rw [contains, find?, if_neg same] at missing
      rw [overlay, ih _ missing, find?_insert_other _ _ _ _ (Ne.symm same)]

theorem ordered_ext {a b : Table α} (orderedA : Ordered a) (orderedB : Ordered b)
    (same : ∀ key, find? key a = find? key b) : a = b := by
  have least {entry : String × α} {rest : Table α} (ordered : Ordered (entry :: rest)) {key : String}
      (present : find? key (entry :: rest) ≠ none) : entry.1 ≤ key := by
    have member := not_not.mp (mt (find?_eq_none key _).mpr present)
    rcases List.mem_cons.mp member with rfl | inside
    · exact le_refl _
    · exact le_of_lt ((List.pairwise_cons.mp ordered).1 _ inside)
  induction a generalizing b with
  | nil =>
    cases b with
    | nil => rfl
    | cons entry rest =>
      have absent := same entry.1
      simp [find?] at absent
  | cons entry rest ih =>
    cases b with
    | nil =>
      have absent := same entry.1
      simp [find?] at absent
    | cons other more =>
      have key : entry.1 = other.1 := by
        apply le_antisymm
        · apply least orderedA
          rw [same other.1]
          simp [find?]
        · apply least orderedB
          rw [← same entry.1]
          simp [find?]
      have value : entry.2 = other.2 := by
        have found := same entry.1
        rw [find?, find?, if_pos rfl, if_pos key.symm] at found
        exact Option.some.inj found
      have tail : rest = more := by
        obtain ⟨firstA, orderedA⟩ := List.pairwise_cons.mp orderedA
        obtain ⟨firstB, orderedB⟩ := List.pairwise_cons.mp orderedB
        refine ih orderedA orderedB fun name => ?_
        by_cases first : entry.1 = name
        · rw [(find?_eq_none name rest).mpr, (find?_eq_none name more).mpr]
          · intro inside
            exact lt_irrefl _ (first ▸ key ▸ firstB _ inside)
          · intro inside
            exact lt_irrefl _ (first ▸ firstA _ inside)
        · have found := same name
          rwa [find?, find?, if_neg first, if_neg (key ▸ first)] at found
      rw [tail, Prod.ext key value]

theorem isEmpty_of_find? {a b : Table α} (same : ∀ key, find? key a = find? key b) : a.isEmpty = b.isEmpty := by
  cases a with
  | nil =>
    cases b with
    | nil => rfl
    | cons entry rest =>
      have absent := same entry.1
      simp [find?] at absent
  | cons entry rest =>
    cases b with
    | nil =>
      have absent := same entry.1
      simp [find?] at absent
    | cons other more => rfl

theorem overlay_nil {entries : Table α} (ordered : Ordered entries) : overlay [] entries = entries := by
  apply ordered_ext (overlay_ordered ordered_nil entries) ordered
  intro key
  rw [find?_overlay _ ordered.distinct, find?, Option.or_none]

end InkProject.Table
