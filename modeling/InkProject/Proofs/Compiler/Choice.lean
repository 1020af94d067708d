import InkProject.Compiler.Locate
import InkProject.Proofs.Compiler.Search
import InkProject.Proofs.Text.Encoding
set_option autoImplicit false

namespace InkProject.Compiler

open Disk

deriving instance DecidableEq for Choice

def HiddenPlace (suffix : String) (place : Place) : Prop :=
  ∃ name, place.getLast? = some name ∧ Utf8.ofString suffix <:+ name

section

variable {disk : Disk} {suffix : String} {place : Place} {a b : Place}

theorem isHidden_pathOf (named : ∀ name ∈ place, EntryName name) :
    isHidden (pathOf place) suffix = true ↔ HiddenPlace suffix place := by
  rw [isHidden, HiddenPlace]
  rcases List.eq_nil_or_concat place with rfl | ⟨above, name, rfl⟩
  · simp [fileName?_pathOf_nil]
  · rw [List.concat_eq_append] at named ⊢
    rw [fileName?_pathOf named]
    simp [List.isSuffixOf_iff_suffix]

theorem directoryOf_pathOf (named : ∀ name ∈ place, EntryName name) {name : Bytes} (last : EntryName name) :
    directoryOf (pathOf (place ++ [name])) = pathOf place := by
  rw [directoryOf, parent?_pathOf named last.single last.solid, Option.getD_some]

theorem parentHidden_pathOf (named : ∀ name ∈ place, EntryName name) {name : Bytes} (last : EntryName name) :
    parentHidden (pathOf (place ++ [name])) suffix = true ↔ HiddenPlace suffix place := by
  rw [parentHidden, parent?_pathOf named last.single last.solid]
  exact isHidden_pathOf named

theorem rank_injective (namedA : ∀ name ∈ a, EntryName name) (namedB : ∀ name ∈ b, EntryName name)
    (same : rank suffix (pathOf a) = rank suffix (pathOf b)) : a = b := by
  rw [rank, rank, List.cons.injEq] at same
  exact pathOf_key_injective a b namedA namedB same.2

theorem hidden_first {x y : Path} (hidden : parentHidden x suffix = true) (least : rank suffix y ≤ rank suffix x) :
    parentHidden y suffix = true := by
  refine Classical.byContradiction fun shown => ?_
  rw [rank, rank, if_pos hidden, if_neg shown, List.cons_le_cons_iff] at least
  rcases least with less | ⟨same, _⟩
  · exact absurd less (by decide)
  · exact absurd same (by decide)

theorem ranked_sorted (suffix : String) (found : List Path) :
    (ranked suffix found).Pairwise fun x y => rank suffix x ≤ rank suffix y := by
  have pairs : (ranked suffix found).Pairwise fun x y => decide (rank suffix x ≤ rank suffix y) = true := by
    apply List.pairwise_mergeSort
    · intro x y z first second
      simp only [decide_eq_true_eq] at first second ⊢
      exact List.le_trans first second
    · intro x y
      simpa using List.le_total (rank suffix x) (rank suffix y)
  exact pairs.imp of_decide_eq_true

theorem mem_ranked (suffix : String) (found : List Path) (path : Path) : path ∈ ranked suffix found ↔ path ∈ found :=
  List.mem_mergeSort

theorem ranked_least (found : List Path) (chosen : Path) (ignored : List Path)
    (sorted : ranked suffix found = chosen :: ignored) :
    chosen ∈ found ∧ ∀ other ∈ found, rank suffix chosen ≤ rank suffix other := by
  have pairs := ranked_sorted suffix found
  rw [sorted, List.pairwise_cons] at pairs
  refine ⟨(mem_ranked suffix found chosen).mp (by simp [sorted]), fun other member => ?_⟩
  rw [← mem_ranked suffix, sorted, List.mem_cons] at member
  rcases member with rfl | later
  · exact List.le_refl _
  · exact pairs.1 other later

end

structure Foremost (disk : Disk) (settings : Settings) (root directory : Place) : Prop where
  short : ∀ place, Below disk root place → checkPath (pathOf place) = .ok ()
  below : Below disk root directory
  candidate : Candidate disk settings.executable directory
  first : ∀ other, Below disk root other → Candidate disk settings.executable other →
    rank settings.hiddenSuffix (pathOf (directory ++ [settings.executable.bytes])) ≤
      rank settings.hiddenSuffix (pathOf (other ++ [settings.executable.bytes]))

structure Elected (disk : Disk) (settings : Settings) (root directory : Place) : Prop extends
    Foremost disk settings root directory where
  checked : settings.check = .ok ()
  leads : disk.Leads settings.root root

section

variable {disk : Disk} {order : Enumeration} {settings : Settings} {root directory : Place}

theorem searchRoot_eq_ok (path : Path) (entries : Entries) :
    searchRoot disk settings = .ok (path, entries) ↔ settings.check = .ok () ∧
      ∃ root, disk.Leads settings.root root ∧ disk.top.at? root = some (.dir entries) ∧ path = pathOf root := by
  constructor
  · intro found
    rw [searchRoot] at found
    split at found
    · cases found
    rename_i checked
    split at found
    · cases found
    split at found
    · cases found
    rename_i canonical
    split at found
    · cases found
    rename_i listed
    cases found
    obtain ⟨root, leads, held⟩ := (list_eq_ok disk _ entries).mp listed
    obtain ⟨other, _, also, _, rfl⟩ := (canonical_eq_ok disk _ path).mp canonical
    exact ⟨checked, root, leads, held, by rw [leads_unique disk _ other root also leads]⟩
  · intro holds
    obtain ⟨checked, root, leads, held, rfl⟩ := holds
    have directory : disk.isDir settings.root = true :=
      (isDir_iff disk _).mpr ⟨root, leads, (view_dir disk root).mpr ⟨entries, held⟩⟩
    have canonical := (canonical_eq_ok disk _ _).mpr ⟨root, _, leads, held, rfl⟩
    have listed := (list_eq_ok disk _ _).mpr ⟨root, leads, held⟩
    simp only [searchRoot, checked, directory, canonical, listed]
    rfl

theorem choose_eq_ok (formed : disk.WellFormed) (choice : Choice) (made : (choose order settings disk).2 = .ok choice) :
    ∃ root directory, Elected disk settings root directory ∧
      choice.chosen = pathOf (directory ++ [settings.executable.bytes]) := by
  rw [choose] at made
  split at made
  · cases made
  rename_i path entries rooted
  obtain ⟨checked, root, leads, held, rfl⟩ := (searchRoot_eq_ok path entries).mp rooted
  dsimp only at made
  split at made
  · cases made
  rename_i complete
  obtain ⟨short, members⟩ := search_complete formed held complete
  have elect (chosen : Path) (ignored : List Path) (sorted : ranked settings.hiddenSuffix
      (search disk order settings.executable (pathOf root) entries).found = chosen :: ignored) :
      ∃ root directory, Elected disk settings root directory ∧
        chosen = pathOf (directory ++ [settings.executable.bytes]) := by
    obtain ⟨member, least⟩ := ranked_least _ chosen ignored sorted
    obtain ⟨directory, below, candidate, rfl⟩ := (members chosen).mp member
    refine ⟨root, directory, ⟨⟨short, below, candidate, fun other inside also => ?_⟩, checked, leads⟩, rfl⟩
    exact least _ ((members _).mpr ⟨other, inside, also, rfl⟩)
  split at made
  · cases made
  · rename_i chosen sorted
    cases made
    exact elect chosen [] sorted
  · rename_i chosen ignored _ sorted
    cases made
    exact elect chosen ignored sorted

theorem elected_named (formed : disk.WellFormed) (elected : Elected disk settings root directory) :
    ∀ name ∈ directory ++ [settings.executable.bytes], EntryName name := by
  obtain ⟨node, held, _⟩ := elected.candidate.entry
  exact formed.names _ (by simp [held])

theorem elected_directory (formed : disk.WellFormed) (elected : Elected disk settings root directory) :
    directoryOf (pathOf (directory ++ [settings.executable.bytes])) = pathOf directory := by
  have named := elected_named formed elected
  exact directoryOf_pathOf (fun name member => named name (by simp [member])) (named _ (by simp))

theorem choose_elected (order : Enumeration) (formed : disk.WellFormed) (elected : Elected disk settings root directory) :
    ∃ choice, (choose order settings disk).2 = .ok choice ∧
      choice.chosen = pathOf (directory ++ [settings.executable.bytes]) := by
  have top := dir_above root directory elected.below.inside elected.below.directory
  obtain ⟨entries, held⟩ := (view_dir disk root).mp top
  have rooted := (searchRoot_eq_ok (pathOf root) entries).mpr ⟨elected.checked, root, elected.leads, held, rfl⟩
  have complete : (search disk order settings.executable (pathOf root) entries).failure = none :=
    search_ends order formed held elected.short
  obtain ⟨_, members⟩ := search_complete formed held complete
  have member := (members _).mpr ⟨directory, elected.below, elected.candidate, rfl⟩
  have leader (chosen : Path) (ignored : List Path) (sorted : ranked settings.hiddenSuffix
      (search disk order settings.executable (pathOf root) entries).found = chosen :: ignored) :
      chosen = pathOf (directory ++ [settings.executable.bytes]) := by
    obtain ⟨found, least⟩ := ranked_least _ chosen ignored sorted
    obtain ⟨other, below, candidate, rfl⟩ := (members chosen).mp found
    have equal := List.le_antisymm (least _ member) (elected.first other below candidate)
    obtain ⟨node, seen, _⟩ := candidate.entry
    rw [rank_injective (formed.names _ (by simp [seen])) (elected_named formed elected) equal]
  rw [choose, rooted]
  simp only [complete]
  split
  · rename_i empty
    have present : pathOf (directory ++ [settings.executable.bytes]) ∈ ranked settings.hiddenSuffix
        (search disk order settings.executable (pathOf root) entries).found := List.mem_mergeSort.mpr member
    rw [empty] at present
    cases present
  · rename_i chosen sorted
    exact ⟨_, rfl, leader chosen [] sorted⟩
  · rename_i chosen ignored _ sorted
    exact ⟨_, rfl, leader chosen ignored sorted⟩

theorem choose_unordered (later : Enumeration) (formed : disk.WellFormed)
    (calm : ∀ path error, (choose order settings disk).2 ≠ .error (.search path error)) :
    (∃ first second, (choose order settings disk).2 = .ok first ∧ (choose later settings disk).2 = .ok second ∧
      second.chosen = first.chosen) ∨
      ∃ error, (choose order settings disk).2 = .error error ∧ (choose later settings disk).2 = .error error := by
  cases made : (choose order settings disk).2 with
  | ok first =>
    obtain ⟨root, directory, elected, chosen⟩ := choose_eq_ok formed first made
    obtain ⟨second, again, also⟩ := choose_elected later formed elected
    exact .inl ⟨first, second, rfl, again, also.trans chosen.symm⟩
  | error error =>
    refine .inr ⟨error, rfl, ?_⟩
    rw [made] at calm
    rw [choose] at made ⊢
    cases rooted : searchRoot disk settings with
    | error fault =>
      rw [rooted] at made
      exact made
    | ok pair =>
      obtain ⟨path, entries⟩ := pair
      obtain ⟨checked, root, leads, held, rfl⟩ := (searchRoot_eq_ok path entries).mp rooted
      simp only [rooted] at made ⊢
      split at made
      · cases made
        exact absurd rfl (calm _ _)
      · rename_i complete
        obtain ⟨short, members⟩ := search_complete formed held complete
        have again : (search disk later settings.executable (pathOf root) entries).failure = none :=
          search_ends later formed held short
        split at made
        · rename_i empty
          cases made
          have nothing : ranked settings.hiddenSuffix
              (search disk later settings.executable (pathOf root) entries).found = [] := by
            refine List.eq_nil_iff_forall_not_mem.mpr fun path member => ?_
            have found := (members path).mpr (((search_complete formed held again).2 path).mp (List.mem_mergeSort.mp member))
            have listed : path ∈ ranked settings.hiddenSuffix
                (search disk order settings.executable (pathOf root) entries).found := List.mem_mergeSort.mpr found
            rw [empty] at listed
            cases listed
          simp only [again, nothing]
        · cases made
        · cases made

end

end InkProject.Compiler
