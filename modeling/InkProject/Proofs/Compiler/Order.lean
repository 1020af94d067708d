import InkProject.Proofs.Compiler.Companion
import Mathlib.Data.List.Sort
/- The order in which directories give their entries decides nothing: all files that match
   stand in one line, of which the first is taken, and the others are what is warned of. -/
set_option autoImplicit false

namespace InkProject.Compiler

open Disk

def Earlier (suffix : String) (a b : Path) : Prop :=
  parentHidden a suffix = true ∧ parentHidden b suffix = false ∨
    parentHidden a suffix = parentHidden b suffix ∧ a.names < b.names

instance (suffix : String) : Std.Irrefl (Earlier suffix) where
  irrefl path := by
    rintro (⟨hidden, shown⟩ | ⟨_, less⟩)
    · rw [hidden] at shown
      cases shown
    · exact List.lt_irrefl _ less

instance (suffix : String) : Std.Antisymm (Earlier suffix) where
  antisymm a b first second := by
    rcases first with ⟨hidden, shown⟩ | ⟨same, less⟩
    · rcases second with ⟨also, _⟩ | ⟨same, _⟩
      · rw [shown] at also
        cases also
      · rw [hidden, shown] at same
        cases same
    · rcases second with ⟨also, shown⟩ | ⟨_, more⟩
      · rw [shown, also] at same
        cases same
      · exact absurd less (List.lt_asymm more)

def Matching (disk : Disk) (settings : Settings) (path : Path) : Prop :=
  settings.check = .ok () ∧ ∃ root directory, disk.Leads settings.root root ∧ Below disk root directory ∧
    Candidate disk settings.executable directory ∧ path = pathOf (directory ++ [settings.executable.bytes])

def Readable (disk : Disk) (settings : Settings) : Prop :=
  ∀ root place, disk.Leads settings.root root → Below disk root place → checkPath (pathOf place) = .ok ()

structure Lineup (disk : Disk) (settings : Settings) (line : List Path) : Prop where
  sorted : line.Pairwise (Earlier settings.hiddenSuffix)
  all : ∀ path, path ∈ line ↔ Matching disk settings path

def severalOf (executable : FileName) : List Path → List LocateEvent
  | chosen :: other :: others => [.several executable chosen (other :: others)]
  | _ => []

def firstOf (error : LocateError) : List Path → Except LocateError Choice
  | [] => .error error
  | chosen :: ignored => .ok ⟨chosen, ignored⟩

def LocateEvent.warns (event : LocateEvent) : Bool := event.line.level = .warn

section

variable {disk : Disk} {settings : Settings} {suffix : String} {a b : Place}

theorem rank_lt_iff (namedA : ∀ name ∈ a, EntryName name) (namedB : ∀ name ∈ b, EntryName name) :
    rank suffix (pathOf a) < rank suffix (pathOf b) ↔ Earlier suffix (pathOf a) (pathOf b) := by
  have namesA := names_pathOf a fun name member => ⟨(namedA name member).filled, (namedA name member).single⟩
  have namesB := names_pathOf b fun name member => ⟨(namedB name member).filled, (namedB name member).single⟩
  have less : ([0] : Bytes) < [1] := by decide
  have more : ¬ ([1] : Bytes) < [0] := by decide
  rw [rank, rank, Earlier, List.cons_lt_cons_iff, pathOf_key_lt namedA namedB, namesA, namesB]
  cases parentHidden (pathOf a) suffix <;> cases parentHidden (pathOf b) suffix <;> simp [less, more]

theorem lineup_unique {first second : List Path} (one : Lineup disk settings first) (two : Lineup disk settings second) :
    first = second :=
  one.sorted.eq_of_mem_iff two.sorted fun path => (one.all path).trans (two.all path).symm

theorem ranked_lineup (order : Enumeration) {root : Place} {entries : Entries} (formed : disk.WellFormed)
    (readable : Readable disk settings) (checked : settings.check = .ok ()) (leads : disk.Leads settings.root root)
    (held : disk.top.at? root = some (.dir entries)) : Lineup disk settings
      (ranked settings.hiddenSuffix (search disk order settings.executable (pathOf root) entries).found) := by
  have complete : (search disk order settings.executable (pathOf root) entries).failure = none :=
    search_ends order formed held fun place => readable root place leads
  have members := (search_complete formed held complete).2
  have named (path : Path) (member : path ∈ (search disk order settings.executable (pathOf root) entries).found) :
      ∃ place, path = pathOf place ∧ ∀ name ∈ place, EntryName name := by
    obtain ⟨directory, _, candidate, rfl⟩ := (members path).mp member
    obtain ⟨node, seen, _⟩ := candidate.entry
    exact ⟨_, rfl, formed.names _ (by simp [seen])⟩
  constructor
  case sorted =>
    have distinct : (ranked settings.hiddenSuffix
        (search disk order settings.executable (pathOf root) entries).found).Nodup :=
      (List.mergeSort_perm _ _).nodup_iff.mpr (search_nodup order formed held)
    refine ((ranked_sorted _ _).and distinct).imp_of_mem fun {x y} memberX memberY both => ?_
    obtain ⟨placeX, rfl, namedX⟩ := named x ((mem_ranked _ _ x).mp memberX)
    obtain ⟨placeY, rfl, namedY⟩ := named y ((mem_ranked _ _ y).mp memberY)
    refine (rank_lt_iff namedX namedY).mp (Std.lt_of_le_of_ne both.1 fun same => both.2 ?_)
    rw [rank_injective namedX namedY same]
  case all =>
    intro path
    rw [mem_ranked, members]
    constructor
    · intro holds
      obtain ⟨directory, below, candidate, same⟩ := holds
      exact ⟨checked, root, directory, leads, below, candidate, same⟩
    · intro holds
      obtain ⟨_, other, directory, also, below, candidate, same⟩ := holds
      rw [leads_unique disk _ root other leads also]
      exact ⟨directory, below, candidate, same⟩

theorem unrooted_lineup {error : LocateError} (unrooted : searchRoot disk settings = .error error) :
    Lineup disk settings [] := by
  refine ⟨List.Pairwise.nil, fun path => Iff.intro (fun member => nomatch member) fun holds => ?_⟩
  obtain ⟨checked, root, directory, leads, below, _, _⟩ := holds
  obtain ⟨entries, held⟩ := (view_dir disk root).mp (dir_above root directory below.inside below.directory)
  rw [(searchRoot_eq_ok _ _).mpr ⟨checked, root, leads, held, rfl⟩] at unrooted
  cases unrooted

theorem choose_lineup (formed : disk.WellFormed) (readable : Readable disk settings) :
    ∃ line error, Lineup disk settings line ∧ ∀ order, ∃ found : List Path, found.Perm line ∧
      choose order settings disk = (found.map .candidate ++ severalOf settings.executable line, firstOf error line) := by
  cases rooted : searchRoot disk settings with
  | error error =>
    refine ⟨[], error, unrooted_lineup rooted, fun order => ⟨[], .nil, ?_⟩⟩
    rw [choose, rooted]
    rfl
  | ok pair =>
    obtain ⟨path, entries⟩ := pair
    obtain ⟨checked, root, leads, held, rfl⟩ := (searchRoot_eq_ok path entries).mp rooted
    have lineup (order : Enumeration) := ranked_lineup order formed readable checked leads held
    refine ⟨_, .notFound settings.executable.text (pathOf root), lineup .sorted, fun order =>
      ⟨(search disk order settings.executable (pathOf root) entries).found, ?_, ?_⟩⟩
    · rw [← lineup_unique (lineup order) (lineup .sorted)]
      exact (List.mergeSort_perm _ _).symm
    · have complete : (search disk order settings.executable (pathOf root) entries).failure = none :=
        search_ends order formed held fun place => readable root place leads
      rw [choose, rooted]
      simp only [complete]
      rw [← lineup_unique (lineup order) (lineup .sorted)]
      cases ranked settings.hiddenSuffix (search disk order settings.executable (pathOf root) entries).found with
      | nil => simp [severalOf, firstOf]
      | cons chosen ignored =>
        cases ignored with
        | nil => simp [severalOf, firstOf]
        | cons other others => rfl

theorem relocation_quiet (relocation : Relocation) : relocation.event.warns = false := by
  obtain ⟨kind, source, target⟩ := relocation
  cases kind <;> rfl

theorem locate_onward (settings : Settings) (disk : Disk) (made : Except LocateError Choice) :
    ∃ result after notes, (∀ event ∈ notes, event.warns = false) ∧ ∀ order events,
      choose order settings disk = (events, made) → locate order settings disk = ⟨result, after, events ++ notes⟩ := by
  cases made with
  | error error =>
    refine ⟨.error error, disk, [], by simp, fun order events chosen => ?_⟩
    rw [locate, chosen, List.append_nil]
  | ok choice =>
    cases hid : hide settings disk (directoryOf choice.chosen) with
    | error error =>
      refine ⟨.error error, disk, [], by simp, fun order events chosen => ?_⟩
      rw [locate, chosen]
      simp only [hid, List.append_nil]
    | ok step =>
      obtain ⟨between, directory, hidden⟩ := step
      have first : (hiddenEvent directory hidden).warns = false := by
        cases hidden with
        | none => rfl
        | some relocation => exact relocation_quiet relocation
      cases settling : settle settings between directory with
      | error error =>
        refine ⟨.error error, between, [hiddenEvent directory hidden], by simpa using first, fun order events chosen => ?_⟩
        rw [locate_settling chosen hid, settling]
      | ok last =>
        obtain ⟨after, settled⟩ := last
        refine ⟨.ok ⟨directory.child settings.executable.bytes,
            Descriptor.inDirectory settings.executable directory settings.hiddenSuffix,
            companionState settings after directory, hidden.toList ++ settled.toList⟩,
          after, hiddenEvent directory hidden :: settled.toList.map Relocation.event, ?_, fun order events chosen => ?_⟩
        · intro event member
          rcases List.mem_cons.mp member with rfl | later
          · exact first
          · obtain ⟨relocation, _, rfl⟩ := List.mem_map.mp later
            exact relocation_quiet relocation
        · rw [locate_settling chosen hid, settling]
          simp only [List.append_assoc, List.singleton_append]

end

-- The first of the line is taken in every order, and but for the order in which candidates
-- are noted all that comes of locating is the same.
structure OrderFree (disk : Disk) (settings : Settings) (line : List Path) : Prop where
  chosen : ∀ order choice, (choose order settings disk).2 = .ok choice ↔ line = choice.chosen :: choice.ignored
  warned : ∀ order, (locate order settings disk).events.filter LocateEvent.warns = severalOf settings.executable line
  events : ∃ notes, ∀ order, ∃ found : List Path, found.Perm line ∧
    (locate order settings disk).events = found.map .candidate ++ severalOf settings.executable line ++ notes
  result : ∀ order later, (locate order settings disk).result = (locate later settings disk).result
  disk : ∀ order later, (locate order settings disk).disk = (locate later settings disk).disk

theorem locate_orderFree (disk : Disk) (settings : Settings) (formed : disk.WellFormed) (readable : Readable disk settings) :
    ∃ line, Lineup disk settings line ∧ OrderFree disk settings line := by
  obtain ⟨line, error, lineup, chooses⟩ := choose_lineup formed readable
  obtain ⟨result, after, notes, quiet, onward⟩ := locate_onward settings disk (firstOf error line)
  have located (order : Enumeration) : ∃ found : List Path, found.Perm line ∧ locate order settings disk =
      ⟨result, after, found.map .candidate ++ severalOf settings.executable line ++ notes⟩ := by
    obtain ⟨found, perm, chosen⟩ := chooses order
    exact ⟨found, perm, onward order _ chosen⟩
  refine ⟨line, lineup, ?_⟩
  constructor
  case chosen =>
    intro order choice
    obtain ⟨_, _, chosen⟩ := chooses order
    rw [chosen]
    obtain ⟨first, ignored⟩ := choice
    cases line <;> simp [firstOf]
  case warned =>
    intro order
    obtain ⟨found, _, same⟩ := located order
    have candidates : (found.map LocateEvent.candidate).filter LocateEvent.warns = [] :=
      List.filter_eq_nil_iff.mpr fun event member => by
        obtain ⟨path, _, rfl⟩ := List.mem_map.mp member
        exact Bool.false_ne_true
    have several : (severalOf settings.executable line).filter LocateEvent.warns = severalOf settings.executable line := by
      match line with
      | [] | [_] | _ :: _ :: _ => rfl
    have silent : notes.filter LocateEvent.warns = [] :=
      List.filter_eq_nil_iff.mpr fun event member => by simp [quiet event member]
    rw [same, List.filter_append, List.filter_append, candidates, several, silent, List.nil_append, List.append_nil]
  case events =>
    refine ⟨notes, fun order => ?_⟩
    obtain ⟨found, perm, same⟩ := located order
    exact ⟨found, perm, by rw [same]⟩
  case result =>
    intro order later
    obtain ⟨_, _, first⟩ := located order
    obtain ⟨_, _, second⟩ := located later
    rw [first, second]
  case disk =>
    intro order later
    obtain ⟨_, _, first⟩ := located order
    obtain ⟨_, _, second⟩ := located later
    rw [first, second]

def linkedDisk : Disk :=
  let shown : Entries := .cons (Utf8.ofString "ink") (.file [2] true) .nil
  let hidden : Entries := .cons (Utf8.ofString "ink") (.link (Utf8.ofString "../A/ink")) .nil
  ⟨.cons (Utf8.ofString "A") (.dir shown) (.cons (Utf8.ofString "B~") (.dir hidden) .nil), []⟩

def Enumeration.reversed : Enumeration := ⟨fun _ entries => entries.reverse, fun _ entries => entries.reverse_perm⟩

theorem linked_compilers_lined_up :
    (linkedDisk.WellFormed ∧ Readable linkedDisk pendingSettings) ∧
      (search linkedDisk .sorted pendingSettings.executable (pathOf []) linkedDisk.top).found ≠
        (search linkedDisk .reversed pendingSettings.executable (pathOf []) linkedDisk.top).found ∧
      Lineup linkedDisk pendingSettings [Path.ofString "/B~/ink", Path.ofString "/A/ink"] ∧
      OrderFree linkedDisk pendingSettings [Path.ofString "/B~/ink", Path.ofString "/A/ink"] := by
  have formed : linkedDisk.WellFormed := wellFormed_of_names (by decide) (by decide)
  have leads : linkedDisk.Leads pendingSettings.root [] := ((locate_eq_ok _ _ _ _).mp rfl).1
  have complete : (search linkedDisk .sorted pendingSettings.executable (pathOf []) linkedDisk.top).failure = none := by
    decide
  have readable : Readable linkedDisk pendingSettings := by
    intro root place also below
    rw [leads_unique linkedDisk _ root [] also leads] at below
    exact (search_complete formed rfl complete).1 place below
  have found : (search linkedDisk .sorted pendingSettings.executable (pathOf []) linkedDisk.top).found =
      [Path.ofString "/B~/ink", Path.ofString "/A/ink"] := by decide
  have ranks : ranked pendingSettings.hiddenSuffix [Path.ofString "/B~/ink", Path.ofString "/A/ink"] =
      [Path.ofString "/B~/ink", Path.ofString "/A/ink"] := List.mergeSort_of_pairwise (by decide)
  have lined := ranked_lineup .sorted formed readable (by decide) leads rfl
  rw [found, ranks] at lined
  obtain ⟨line, lineup, free⟩ := locate_orderFree linkedDisk pendingSettings formed readable
  rw [lineup_unique lineup lined] at free
  exact ⟨⟨formed, readable⟩, by decide, lined, free⟩

end InkProject.Compiler
