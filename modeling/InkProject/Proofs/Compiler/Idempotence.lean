import InkProject.Proofs.Compiler.Rerun
import InkProject.Proofs.Compiler.Usable
/- Locating the compiler twice: the second run changes nothing and says the same. -/
set_option autoImplicit false

namespace InkProject.Compiler

open Disk InkProject.Path

def LocateEvent.hiding? : LocateEvent → Option (Path × Path)
  | .relocated ⟨.hideDirectory, source, target⟩ => some (source, target)
  | _ => none

def hiding? (events : List LocateEvent) : Option (Path × Path) := events.findSome? LocateEvent.hiding?

def Settings.again (settings : Settings) (disk : Disk) (events : List LocateEvent) : Settings :=
  match hiding? events with
  | some (source, target) => if disk.canonical settings.root = .ok source then { settings with root := target } else settings
  | none => settings

structure InReach (settings : Settings) (root target : Path) (disk : Disk) : Prop where
  root : disk.isDir root = true
  executable : (target.child settings.executable.bytes).bytes.length < pathLimit
  directories : ∀ new place, target = pathOf new → new <+: place → disk.view place = some Node.emptyDir →
    (pathOf place).bytes.length < pathLimit

structure Repeated (first second : Outcome LocateError Located LocateEvent) : Prop where
  disk : second.disk = first.disk
  located : ∀ located, first.result = .ok located → second.result = .ok { located with relocations := [] }
  failed : ∀ error, first.result = .error error → second.result = .error error

section

variable {settings : Settings} {disk between after : Disk} {order later : Enumeration} {events : List LocateEvent}

theorem hiding_append (a b : List LocateEvent) : hiding? (a ++ b) = (hiding? a).or (hiding? b) :=
  List.findSome?_append

theorem choose_hiding : hiding? (choose order settings disk).1 = none := by
  have candidates (found : List Path) : hiding? (found.map .candidate) = none := by
    rw [hiding?, List.findSome?_eq_none_iff]
    intro event member
    obtain ⟨path, _, rfl⟩ := List.mem_map.mp member
    rfl
  rw [choose]
  split
  · rfl
  · dsimp only
    split
    · exact candidates _
    · split
      · exact candidates _
      · exact candidates _
      · rw [hiding_append, candidates]
        rfl

theorem choose_quiet {result : Except LocateError Choice} (made : choose order settings disk = (events, result)) :
    hiding? events = none := by
  have quiet : hiding? (choose order settings disk).1 = none := choose_hiding
  rwa [made] at quiet

theorem settled_hiding {directory : Path} {settled : Option Relocation}
    (done : settle settings disk directory = .ok (after, settled)) :
    hiding? (settled.toList.map Relocation.event) = none := by
  rcases settle_cases done with ⟨_, _, rfl⟩ | ⟨_, ⟨_, _, _, _, rfl⟩ | ⟨_, _, rfl⟩⟩ <;> rfl

theorem again_eq (settings : Settings) (disk : Disk) (events : List LocateEvent) :
    settings.again disk events = { settings with root := (settings.again disk events).root } := by
  rw [Settings.again]
  split
  · split <;> rfl
  · rfl

-- What is located depends on the order only where the search itself fails.
theorem locate_unordered (formed : disk.WellFormed)
    (steady : ∀ path error, (locate order settings disk).result = .error (.search path error) → later = order) :
    (locate later settings disk).disk = (locate order settings disk).disk ∧
      (locate later settings disk).result = (locate order settings disk).result := by
  have failing (other : Enumeration) {error : LocateError} (failed : (choose other settings disk).2 = .error error) :
      (locate other settings disk).disk = disk ∧ (locate other settings disk).result = .error error := by
    rw [locate]
    split
    · rename_i made
      rw [made] at failed
      cases failed
      exact ⟨rfl, rfl⟩
    · rename_i made
      rw [made] at failed
      cases failed
  by_cases calm : ∀ path error, (choose order settings disk).2 ≠ .error (.search path error)
  · rcases choose_unordered later formed calm with ⟨first, second, made, again, same⟩ | ⟨error, failed, again⟩
    · rw [locate, locate]
      generalize choose order settings disk = one at made ⊢
      generalize choose later settings disk = two at again ⊢
      obtain ⟨events, result⟩ := one
      obtain ⟨others, result⟩ := two
      cases made
      cases again
      simp only [same]
      cases hide settings disk (directoryOf first.chosen) with
      | error error => exact ⟨rfl, rfl⟩
      | ok triple =>
        obtain ⟨between, directory, hidden⟩ := triple
        dsimp only
        cases settle settings between directory with
        | error error => exact ⟨rfl, rfl⟩
        | ok pair => exact ⟨rfl, rfl⟩
    · obtain ⟨disks, results⟩ := failing order failed
      obtain ⟨disksAgain, resultsAgain⟩ := failing later again
      exact ⟨disksAgain.trans disks.symm, resultsAgain.trans results.symm⟩
  · simp only [not_forall, not_not] at calm
    obtain ⟨path, error, failed⟩ := calm
    rw [steady path error (failing order failed).2]
    exact ⟨rfl, rfl⟩

theorem repeated_unchanged (formed : disk.WellFormed)
    (steady : ∀ path error, (locate order settings disk).result = .error (.search path error) → later = order)
    (unchanged : (locate order settings disk).disk = disk)
    (shown : hiding? (locate order settings disk).events = none)
    (idle : ∀ located, (locate order settings disk).result = .ok located → located.relocations = []) :
    Repeated (locate order settings disk) (locate later (settings.again disk (locate order settings disk).events)
      (locate order settings disk).disk) := by
  have same : settings.again disk (locate order settings disk).events = settings := by rw [Settings.again, shown]
  obtain ⟨disks, results⟩ := locate_unordered formed steady
  rw [same, unchanged]
  refine ⟨disks, fun located done => ?_, fun error failed => results.trans failed⟩
  rw [results, done, ← idle located done]

theorem locate_hidden (order : Enumeration) {root place : Place} (formed : disk.WellFormed)
    (elected : Elected disk settings root place) (suffixed : HiddenPlace settings.hiddenSuffix place) : ∃ events, locate order settings disk =
      match settle settings disk (pathOf place) with
      | .error error => ⟨.error error, disk, events⟩
      | .ok (after, settled) => ⟨.ok ⟨(pathOf place).child settings.executable.bytes,
          Descriptor.inDirectory settings.executable (pathOf place) settings.hiddenSuffix,
          companionState settings after (pathOf place), settled.toList⟩,
        after, events ++ settled.toList.map Relocation.event⟩ := by
  obtain ⟨choice, made, chosen⟩ := choose_elected order formed elected
  have named := formed.names place (by simp [elected.below.directory])
  have hid : hide settings disk (directoryOf choice.chosen) = .ok (disk, pathOf place, none) := by
    rw [chosen, elected_directory formed elected, hide, if_pos ((isHidden_pathOf named).mpr suffixed)]
  have whole : choose order settings disk = ((choose order settings disk).1, .ok choice) := by rw [← made]
  exact ⟨_, locate_settling whole hid⟩

end

section

variable {settings : Settings} {disk between after : Disk} {later : Enumeration} {root place : Place} {path : Path}

theorem second_settled (later : Enumeration) (path : Path) (formed : after.WellFormed)
    (elected : Elected after { settings with root := path } root place) (suffixed : HiddenPlace settings.hiddenSuffix place)
    (settling : settle settings after (pathOf place) = .ok (after, none)) :
    (locate later { settings with root := path } after).disk = after ∧
      (locate later { settings with root := path } after).result = .ok ⟨(pathOf place).child settings.executable.bytes,
        Descriptor.inDirectory settings.executable (pathOf place) settings.hiddenSuffix,
        companionState settings after (pathOf place), []⟩ := by
  obtain ⟨events, same⟩ := locate_hidden later formed elected suffixed
  have still : settle { settings with root := path } after (pathOf place) = .ok (after, none) := settling
  rw [same, still]
  exact ⟨rfl, rfl⟩

theorem second_failed (later : Enumeration) (path : Path) (formed : after.WellFormed)
    (elected : Elected after { settings with root := path } root place) (suffixed : HiddenPlace settings.hiddenSuffix place) {error : LocateError}
    (settling : settle settings after (pathOf place) = .error error) :
    (locate later { settings with root := path } after).disk = after ∧
      (locate later { settings with root := path } after).result = .error error := by
  obtain ⟨events, same⟩ := locate_hidden later formed elected suffixed
  have still : settle { settings with root := path } after (pathOf place) = .error error := settling
  rw [same, still]
  exact ⟨rfl, rfl⟩

theorem leads_settled (plain : disk.Plain) {library : Place} (settled : Settled settings disk after place library)
    (leads : disk.Leads path root) (top : disk.view root = some Node.emptyDir) : after.Leads path root := by
  obtain ⟨checked, left, way⟩ := leads
  have start := settled.start path.bytes (way_start _ _ _ _ top way)
  refine ⟨checked, left, ?_⟩
  rw [starting, start]
  exact way_directories plain (fun other => (settled.directories other).mpr) _ _ _ _ top way

theorem library_apart (plain : disk.Plain) (top : disk.view place = some Node.emptyDir)
    (single : '/' ∉ settings.pendingSuffix.toList) (apart : settings.pendingCompanion ≠ settings.executable.text)
    {library : Place} (settled : Settled settings disk after place library) (other : Place) :
    library ≠ other ++ [settings.executable.bytes] := by
  intro same
  rw [library_place plain top single settled] at same
  obtain ⟨_, tail⟩ := List.append_inj' same rfl
  exact apart (Utf8.ofString_injective _ _ (List.cons.inj tail).1)

end

section

variable {settings : Settings} {disk between after : Disk} {order later : Enumeration} {events : List LocateEvent}
variable {root place new : Place}

theorem again_already (plain : disk.Plain) (single : '/' ∉ settings.pendingSuffix.toList)
    (apart : settings.pendingCompanion ≠ settings.executable.text)
    (steady : ∀ path error, (locate order settings disk).result = .error (.search path error) → later = order)
    (elected : Elected disk settings root place)
    (suffixed : HiddenPlace settings.hiddenSuffix place) {choice : Choice}
    (made : choose order settings disk = (events, .ok choice))
    (hid : hide settings disk (directoryOf choice.chosen) = .ok (disk, pathOf place, none)) :
    Repeated (locate order settings disk) (locate later (settings.again disk (locate order settings disk).events)
      (locate order settings disk).disk) := by
  have first := locate_settling made hid
  have quiet := choose_quiet made
  have shown : hiding? (events ++ [hiddenEvent (pathOf place) none]) = none := by
    rw [hiding_append, quiet]
    rfl
  cases settling : settle settings disk (pathOf place) with
  | error error =>
    rw [settling] at first
    apply repeated_unchanged plain.toWellFormed steady
    · rw [first]
    · rw [first, shown]
    · rw [first]
      intro located done
      cases done
  | ok pair =>
    obtain ⟨after, settled⟩ := pair
    rw [settling] at first
    have nothing : hiding? (locate order settings disk).events = none := by
      rw [first, hiding_append, shown, settled_hiding settling]
      rfl
    rcases settle_moves plain elected.below.directory settling with ⟨_, rfl, rfl⟩ | ⟨library, moved⟩
    · apply repeated_unchanged plain.toWellFormed steady
      · rw [first]
      · exact nothing
      · rw [first]
        intro located done
        cases done
        rfl
    · have same : settings.again disk (locate order settings disk).events = settings := by rw [Settings.again, nothing]
      have foremost := foremost_settled plain elected.toForemost moved
        (library_apart plain elected.below.directory single apart moved)
      have top := dir_above root place elected.below.inside elected.below.directory
      have again : Elected after settings root place :=
        ⟨foremost, elected.checked, leads_settled plain moved elected.leads top⟩
      have settledAgain := settle_again plain elected.below.directory single settling
      obtain ⟨disks, results⟩ := second_settled later settings.root moved.plain.toWellFormed again suffixed settledAgain
      rw [same, first]
      refine ⟨disks, fun located done => ?_, fun error failed => ?_⟩
      · cases done
        exact results
      · cases failed

theorem hiding_shown {choice : Choice} {source target : Path} (made : choose order settings disk = (events, .ok choice))
    (hid : hide settings disk (directoryOf choice.chosen) = .ok (between, target, some ⟨.hideDirectory, source, target⟩)) :
    hiding? (locate order settings disk).events = some (source, target) := by
  rw [locate_settling made hid]
  split
  · rw [hiding_append, choose_quiet made]
    rfl
  · rw [hiding_append, hiding_append, choose_quiet made]
    rfl

theorem elected_again (plain : disk.Plain) (hidden : Hidden settings disk between place new)
    (elected : Elected disk settings root place) (solid : after.Plain)
    (directories : ∀ other, after.view other = some Node.emptyDir ↔ between.view other = some Node.emptyDir)
    (start : ∀ bytes, between.view (startOf bytes between.cwd) = some Node.emptyDir →
      startOf bytes after.cwd = startOf bytes between.cwd)
    (foremost : Foremost after settings (moveWorking place new root) new) {path : Path}
    (next : path = if disk.canonical settings.root = .ok (pathOf place) then pathOf new else settings.root)
    (short : (pathOf new).bytes.length < pathLimit) (present : after.isDir path = true) :
    Elected after { settings with root := path } (moveWorking place new root) new := by
  have top := dir_above root place elected.below.inside elected.below.directory
  have same : Foremost after { settings with root := path } (moveWorking place new root) new :=
    ⟨foremost.short, foremost.below, foremost.candidate, foremost.first⟩
  refine ⟨same, elected.checked, ?_⟩
  by_cases itself : disk.canonical settings.root = .ok (pathOf place)
  · rw [if_pos itself] at next
    obtain ⟨other, node, leads, held, same⟩ := (canonical_eq_ok disk _ _).mp itself
    rw [leads_unique disk _ _ _ leads elected.leads] at same
    obtain rfl := place_unique plain.toWellFormed (by simp [elected.below.directory]) (by simp [top]) same
    rw [moved_self, next]
    exact leads_dir solid.toWellFormed foremost.below.directory short
  · rw [if_neg itself] at next
    subst next
    exact leads_again plain hidden solid directories start elected.leads top present

theorem again_hidden (plain : disk.Plain) (single : '/' ∉ settings.pendingSuffix.toList)
    (apart : settings.pendingCompanion ≠ settings.executable.text) (elected : Elected disk settings root place)
    (hidden : Hidden settings disk between place new) (short : (pathOf new).bytes.length < pathLimit) {choice : Choice}
    (made : choose order settings disk = (events, .ok choice))
    (hid : hide settings disk (directoryOf choice.chosen) =
      .ok (between, pathOf new, some ⟨.hideDirectory, pathOf place, pathOf new⟩))
    (reach : InReach settings (settings.again disk (locate order settings disk).events).root (pathOf new)
      (locate order settings disk).disk) :
    Repeated (locate order settings disk) (locate later (settings.again disk (locate order settings disk).events)
      (locate order settings disk).disk) := by
  have first := locate_settling made hid
  have shown := hiding_shown made hid
  have next : (settings.again disk (locate order settings disk).events).root =
      if disk.canonical settings.root = .ok (pathOf place) then pathOf new else settings.root := by
    rw [Settings.again, shown]
    dsimp only
    split <;> rfl
  rw [again_eq]
  generalize (settings.again disk (locate order settings disk).events).root = path at next reach ⊢
  have solid := hidden.plain plain
  have top := hidden.renamed.arrived_self.trans elected.below.directory
  have fits := reach.executable
  rw [child_of_dir solid.toWellFormed top settings.executable.bytes_single] at fits
  cases settling : settle settings between (pathOf new) with
  | error error =>
    rw [settling] at first
    rw [first] at reach ⊢
    have foremost := foremost_hidden plain hidden elected.toForemost (fun other => reach.directories new other rfl) fits
    have again := elected_again plain hidden elected solid (fun other => Iff.rfl) (fun bytes _ => rfl) foremost next short
      reach.root
    obtain ⟨disks, results⟩ := second_failed later path solid.toWellFormed again hidden.suffixed settling
    refine ⟨disks, fun located done => ?_, fun other failed => ?_⟩
    · cases done
    · cases failed
      exact results
  | ok pair =>
    obtain ⟨after, settled⟩ := pair
    rw [settling] at first
    rw [first] at reach ⊢
    have directories := settle_directories solid top settling
    have foremost := foremost_hidden plain hidden elected.toForemost
      (fun other inside there => reach.directories new other rfl inside ((directories other).mpr there)) fits
    have again : Elected after { settings with root := path } (moveWorking place new root) new := by
      rcases settle_moves solid top settling with ⟨_, rfl, _⟩ | ⟨library, moved⟩
      · exact elected_again plain hidden elected solid directories (fun bytes _ => rfl) foremost next short reach.root
      · have kept := foremost_settled solid foremost moved (library_apart solid top single apart moved)
        exact elected_again plain hidden elected moved.plain directories moved.start kept next short reach.root
    obtain ⟨disks, results⟩ := second_settled later path (settle_plain solid top settling).toWellFormed again
      hidden.suffixed (settle_again solid top single settling)
    refine ⟨disks, fun located done => ?_, fun error failed => ?_⟩
    · cases done
      exact results
    · cases failed

theorem inReach_elected (solid : after.Plain) {path : Path}
    (elected : Elected after { settings with root := path } root new) : InReach settings path (pathOf new) after where
  root := (isDir_iff after path).mpr ⟨root, elected.leads, dir_above root new elected.below.inside elected.below.directory⟩
  executable := by
    rw [child_of_dir solid.toWellFormed elected.below.directory settings.executable.bytes_single]
    exact ((candidate_plain solid elected.below.directory).mp elected.candidate).2
  directories other place same inside directory := by
    have held : after.view other ≠ none := held_above other place inside (by rw [directory]; simp)
    obtain rfl := place_unique solid.toWellFormed (by simp [elected.below.directory]) held same
    exact ((checkPath_ok _).mp (elected.short place ⟨elected.below.inside.trans inside, directory⟩)).2.2

theorem located_elected (settings : Settings) (solid : after.Plain) (suffix : '/' ∉ settings.hiddenSuffix.toList)
    (top : after.view new = some Node.emptyDir) {located : Located}
    (done : (locate order settings after).result = .ok located) (idle : located.relocations = [])
    (same : located.descriptor.directory = pathOf new) : ∃ root, Elected after settings root new := by
  obtain ⟨choice, between, directory, hidden, last, settled, made, hid, _, _, rfl⟩ := locate_cases done
  obtain ⟨root, place, elected, chosen⟩ := choose_eq_ok solid.toWellFormed choice made
  rw [chosen, elected_directory solid.toWellFormed elected] at hid
  rcases hide_moves solid elected.below.directory suffix hid with ⟨_, rfl, rfl, rfl⟩ | ⟨_, _, _, _, rfl⟩
  · obtain rfl := place_unique solid.toWellFormed (by simp [elected.below.directory]) (by simp [top]) same
    exact ⟨root, elected⟩
  · cases idle

theorem pendingPath_injective (single : '/' ∉ settings.pendingSuffix.toList) (entry : EntryName (pendingName settings))
    {a b : Place} (formed : disk.WellFormed) (topA : disk.view a = some Node.emptyDir) (later : after.WellFormed)
    (topB : after.view b = some Node.emptyDir)
    (same : pendingPath settings (pathOf a) = pendingPath settings (pathOf b)) : a = b := by
  have plain := pendingName_single settings single
  have pathA : pendingPath settings (pathOf a) = pathOf (a ++ [pendingName settings]) := child_of_dir formed topA plain
  have pathB : pendingPath settings (pathOf b) = pathOf (b ++ [pendingName settings]) := child_of_dir later topB plain
  have named (place : Place) (before : ∀ name ∈ place, EntryName name) :
      ∀ name ∈ place ++ [pendingName settings], EntryName name := by
    intro name member
    rcases List.mem_append.mp member with inside | last
    · exact before name inside
    · exact List.mem_singleton.mp last ▸ entry
  rw [pathA, pathB] at same
  have equal := pathOf_key_injective _ _ (named a (formed.names a (by simp [topA]))) (named b (later.names b (by simp [topB])))
    (by rw [same])
  exact (List.append_inj' equal rfl).1

theorem failed_elected (settings : Settings) (solid : after.Plain) (suffix : '/' ∉ settings.hiddenSuffix.toList)
    (single : '/' ∉ settings.pendingSuffix.toList) (top : after.view new = some Node.emptyDir)
    (pending : after.isFile (pendingPath settings (pathOf new)) = true) {target : Path} {reason : Refusal ⊕ IoError}
    (failed : (locate order settings after).result =
      .error (.relocation (pendingPath settings (pathOf new)) target reason)) :
    ∃ root, Elected after settings root new := by
  have plain := pendingName_single settings single
  obtain ⟨⟨content, executable, file⟩, _⟩ := (isFile_child solid top (pendingName_filled settings) plain).mp pending
  have entry := solid.named new (pendingName settings) (by simp [file])
  have path : pendingPath settings (pathOf new) = pathOf (new ++ [pendingName settings]) :=
    child_of_dir solid.toWellFormed top plain
  obtain ⟨choice, made, source⟩ := locate_relocation failed
  obtain ⟨root, place, elected, chosen⟩ := choose_eq_ok solid.toWellFormed choice made
  rw [chosen, elected_directory solid.toWellFormed elected] at source
  rcases source with same | ⟨between, directory, hidden, hid, same⟩
  · have directory := elected.below.directory
    rw [path] at same
    rw [← place_unique solid.toWellFormed (by simp [file]) (by simp [directory]) same, file] at directory
    cases directory
  · rcases hide_moves solid elected.below.directory suffix hid with ⟨_, rfl, rfl, _⟩ | ⟨there, went, rfl, _, _⟩
    · obtain rfl := pendingPath_injective single entry solid.toWellFormed top solid.toWellFormed elected.below.directory same
      exact ⟨root, elected⟩
    · have topThere := went.renamed.arrived_self.trans elected.below.directory
      obtain rfl := pendingPath_injective single entry solid.toWellFormed top (went.plain solid).toWellFormed topThere same
      rw [went.vacant] at top
      cases top

theorem locate_stages (order : Enumeration) (plain : disk.Plain) (suffix : '/' ∉ settings.hiddenSuffix.toList) :
    (∃ error events, locate order settings disk = ⟨.error error, disk, events⟩ ∧ hiding? events = none) ∨
      (∃ events choice root place, choose order settings disk = (events, .ok choice) ∧
        hide settings disk (directoryOf choice.chosen) = .ok (disk, pathOf place, none) ∧
        Elected disk settings root place ∧ HiddenPlace settings.hiddenSuffix place) ∨
      ∃ events choice between root place new, choose order settings disk = (events, .ok choice) ∧
        hide settings disk (directoryOf choice.chosen) =
          .ok (between, pathOf new, some ⟨.hideDirectory, pathOf place, pathOf new⟩) ∧
        Elected disk settings root place ∧ Hidden settings disk between place new ∧
        (pathOf new).bytes.length < pathLimit := by
  cases made : choose order settings disk with
  | mk events result =>
    have quiet := choose_quiet made
    cases result with
    | error error => exact .inl ⟨error, events, by rw [locate, made], quiet⟩
    | ok choice =>
      cases hid : hide settings disk (directoryOf choice.chosen) with
      | error error =>
        refine .inl ⟨error, events, ?_, quiet⟩
        rw [locate, made]
        simp only [hid]
      | ok triple =>
        obtain ⟨between, directory, hidden⟩ := triple
        obtain ⟨root, place, elected, chosen⟩ := choose_eq_ok plain.toWellFormed choice (by rw [made])
        have moves := hid
        rw [chosen, elected_directory plain.toWellFormed elected] at moves
        rcases hide_moves plain elected.below.directory suffix moves with ⟨suffixed, rfl, rfl, rfl⟩ | ⟨new, went, rfl, short, rfl⟩
        · exact .inr (.inl ⟨events, choice, root, place, rfl, hid, elected, suffixed⟩)
        · exact .inr (.inr ⟨events, choice, between, root, place, new, rfl, hid, elected, went, short⟩)

theorem already_hiding {choice : Choice} {directory : Path} (made : choose order settings disk = (events, .ok choice))
    (hid : hide settings disk (directoryOf choice.chosen) = .ok (between, directory, none)) :
    hiding? (locate order settings disk).events = none := by
  have shown : hiding? (events ++ [hiddenEvent directory none]) = none := by
    rw [hiding_append, choose_quiet made]
    rfl
  rw [locate_settling made hid]
  split
  · exact shown
  · rename_i settling
    rw [hiding_append, shown, settled_hiding settling]
    rfl

theorem again_inReach (plain : disk.Plain) (suffix : '/' ∉ settings.hiddenSuffix.toList)
    (single : '/' ∉ settings.pendingSuffix.toList) (apart : settings.pendingCompanion ≠ settings.executable.text)
    (steady : ∀ path error, (locate order settings disk).result = .error (.search path error) → later = order)
    (reach : ∀ source target, hiding? (locate order settings disk).events = some (source, target) →
      InReach settings (settings.again disk (locate order settings disk).events).root target
        (locate order settings disk).disk) :
    Repeated (locate order settings disk) (locate later (settings.again disk (locate order settings disk).events)
      (locate order settings disk).disk) := by
  rcases locate_stages order plain suffix with ⟨error, events, failed, quiet⟩ |
    ⟨events, choice, root, place, made, hid, elected, suffixed⟩ |
    ⟨events, choice, between, root, place, new, made, hid, elected, went, short⟩
  · apply repeated_unchanged plain.toWellFormed steady
    · rw [failed]
    · rw [failed, quiet]
    · rw [failed]
      intro located done
      cases done
  · exact again_already plain single apart steady elected suffixed made hid
  · exact again_hidden plain single apart elected went short made hid (reach _ _ (hiding_shown made hid))

theorem repeated_inReach {source target : Path} (plain : disk.Plain) (suffix : '/' ∉ settings.hiddenSuffix.toList)
    (single : '/' ∉ settings.pendingSuffix.toList)
    (repeated : Repeated (locate order settings disk) (locate later
      (settings.again disk (locate order settings disk).events) (locate order settings disk).disk))
    (shown : hiding? (locate order settings disk).events = some (source, target)) :
    InReach settings (settings.again disk (locate order settings disk).events).root target
      (locate order settings disk).disk := by
  rcases locate_stages order plain suffix with ⟨error, events, failed, quiet⟩ |
    ⟨events, choice, root, place, made, hid, elected, suffixed⟩ |
    ⟨events, choice, between, root, place, new, made, hid, elected, went, short⟩
  · rw [failed, quiet] at shown
    cases shown
  · rw [already_hiding made hid] at shown
    cases shown
  rw [hiding_shown made hid] at shown
  cases shown
  have first := locate_settling made hid
  rw [again_eq] at repeated
  generalize (settings.again disk (locate order settings disk).events).root = path at repeated ⊢
  have solid := went.plain plain
  have top := went.renamed.arrived_self.trans elected.below.directory
  cases settling : settle settings between (pathOf new) with
  | error error =>
    rw [settling] at first
    rw [first] at repeated ⊢
    obtain ⟨pending, reason, rfl⟩ := settle_error settling
    obtain ⟨again, elected⟩ := failed_elected { settings with root := path } solid suffix single top pending
      (repeated.failed _ rfl)
    exact inReach_elected solid elected
  | ok pair =>
    obtain ⟨after, settled⟩ := pair
    rw [settling] at first
    rw [first] at repeated ⊢
    have last := settle_plain solid top settling
    have directory := (settle_directories solid top settling new).mpr top
    obtain ⟨again, elected⟩ := located_elected { settings with root := path } last suffix directory
      (repeated.located _ rfl) rfl rfl
    exact inReach_elected last elected

-- Locating again changes nothing and gives the same answer, exactly if a directory that was
-- hidden is still in reach. Only a search that failed has to be in the same order again.
theorem locate_again_iff (plain : disk.Plain) (suffix : '/' ∉ settings.hiddenSuffix.toList)
    (single : '/' ∉ settings.pendingSuffix.toList) (apart : settings.pendingCompanion ≠ settings.executable.text)
    (steady : ∀ path error, (locate order settings disk).result = .error (.search path error) → later = order) :
    Repeated (locate order settings disk) (locate later (settings.again disk (locate order settings disk).events)
        (locate order settings disk).disk) ↔
      ∀ source target, hiding? (locate order settings disk).events = some (source, target) →
        InReach settings (settings.again disk (locate order settings disk).events).root target
          (locate order settings disk).disk := by
  constructor
  · intro repeated source target shown
    exact repeated_inReach plain suffix single repeated shown
  · intro reach
    exact again_inReach plain suffix single apart steady reach

end

def settledDisk : Disk :=
  let entries : Entries := .cons (Utf8.ofString "ink") (.file [2] true) (.cons (Utf8.ofString "rt.dll") (.file [1] false) .nil)
  ⟨.cons (Utf8.ofString "Ink~") (.dir entries) .nil, []⟩

theorem settledDisk_directories (place : Place) (directory : settledDisk.view place = some Node.emptyDir) :
    place = [] ∨ place = [Utf8.ofString "Ink~"] := by
  rcases place with _ | ⟨name, _ | ⟨below, rest⟩⟩
  · exact .inl rfl
  · rw [Disk.view, Entries.view_cons, settledDisk, Entries.find?] at directory
    split at directory
    · rename_i same
      exact .inr (by rw [same])
    · cases directory
  · have top := dir_above [name, below] _ ⟨rest, rfl⟩ directory
    rw [Disk.view, Entries.view_cons, settledDisk, Entries.find?] at top
    split at top
    · rw [Option.bind_some, Node.view_dir, Entries.view_cons, Entries.find?, Entries.find?] at top
      split at top
      · cases top
      · split at top <;> cases top
    · cases top

theorem shown_compiler_again :
    (pendingSettings.check = .ok () ∧ shownDisk.Plain ∧ '/' ∉ pendingSettings.hiddenSuffix.toList ∧
      '/' ∉ pendingSettings.pendingSuffix.toList ∧ pendingSettings.pendingCompanion ≠ pendingSettings.executable.text) ∧
      (locate .sorted pendingSettings shownDisk).disk = settledDisk ∧
      Repeated (locate .sorted pendingSettings shownDisk) (locate .sorted
        (pendingSettings.again shownDisk (locate .sorted pendingSettings shownDisk).events)
        (locate .sorted pendingSettings shownDisk).disk) := by
  have suffix : '/' ∉ pendingSettings.hiddenSuffix.toList := by decide
  have single : '/' ∉ pendingSettings.pendingSuffix.toList := by decide
  have apart : pendingSettings.pendingCompanion ≠ pendingSettings.executable.text := by decide
  have disk : (locate .sorted pendingSettings shownDisk).disk = settledDisk := by decide +kernel
  have shown : hiding? (locate .sorted pendingSettings shownDisk).events =
      some (Path.ofString "/Ink", Path.ofString "/Ink~") := by decide +kernel
  have root : (pendingSettings.again shownDisk (locate .sorted pendingSettings shownDisk).events).root =
      Path.ofString "/" := by decide +kernel
  refine ⟨⟨by decide, shownDisk_plain, suffix, single, apart⟩, disk, ?_⟩
  apply (locate_again_iff shownDisk_plain suffix single apart fun _ _ _ => rfl).mpr
  intro source target hidden
  rw [shown, Option.some.injEq, Prod.mk.injEq] at hidden
  obtain ⟨rfl, rfl⟩ := hidden
  rw [disk, root]
  refine ⟨by decide, by decide, fun new place same inside directory => ?_⟩
  rcases settledDisk_directories place directory with rfl | rfl <;> decide

def throughSettings : Settings := { pendingSettings with root := Path.ofString "/Ink/.." }

theorem root_lost : throughSettings.check = .ok () ∧ shownDisk.Plain ∧ '/' ∉ throughSettings.hiddenSuffix.toList ∧
    '/' ∉ throughSettings.pendingSuffix.toList ∧ throughSettings.pendingCompanion ≠ throughSettings.executable.text ∧
    (locate .sorted throughSettings shownDisk).disk = settledDisk ∧
    ¬ Repeated (locate .sorted throughSettings shownDisk) (locate .sorted
      (throughSettings.again shownDisk (locate .sorted throughSettings shownDisk).events)
      (locate .sorted throughSettings shownDisk).disk) := by
  refine ⟨by decide, shownDisk_plain, by decide, by decide, by decide, by decide +kernel, fun repeated => ?_⟩
  have found : (locate .sorted throughSettings shownDisk).result.isOk = true := by decide +kernel
  have lost : (locate .sorted (throughSettings.again shownDisk (locate .sorted throughSettings shownDisk).events)
      (locate .sorted throughSettings shownDisk).disk).result.isOk = false := by decide +kernel
  cases first : (locate .sorted throughSettings shownDisk).result with
  | error error =>
    rw [first] at found
    cases found
  | ok located =>
    rw [repeated.located located first] at lost
    cases lost

end InkProject.Compiler
