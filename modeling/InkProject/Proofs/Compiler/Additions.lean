import InkProject.Proofs.Compiler.Idempotence
import InkProject.Proofs.Disk.Grown
set_option autoImplicit false

namespace InkProject.Compiler

open Disk InkProject.Path

structure Added (settings : Settings) (directory : Path) (after more : Disk) : Prop extends Grown after more where
  plain : more.Plain
  shown : ∀ place content executable,
    more.view (place ++ [settings.executable.bytes]) = some (.file content executable) →
    after.view (place ++ [settings.executable.bytes]) = none → ¬ HiddenPlace settings.hiddenSuffix place
  beside : ∀ place name, directory = pathOf place → more.view (place ++ [name]) = after.view (place ++ [name])

structure Reachable (settings : Settings) (disk : Disk) (executable : Path) : Prop where
  root : disk.isDir settings.root = true
  executable : executable.bytes.length < pathLimit
  directories : ∀ root place, disk.Leads settings.root root → root <+: place →
    disk.view place = some Node.emptyDir → (pathOf place).bytes.length < pathLimit

structure Retained (located : Located) (more : Disk) (second : Outcome LocateError Located LocateEvent) : Prop where
  disk : second.disk = more
  located : second.result = .ok { located with relocations := [] }

-- How a run has left the disk: a hidden and settled directory, which is again the foremost of
-- all where no path below it is too long.
structure Resting (settings : Settings) (after : Disk) (located : Located) (root place : Place) : Prop where
  plain : after.Plain
  checked : settings.check = .ok ()
  suffixed : HiddenPlace settings.hiddenSuffix place
  inside : root <+: place
  directory : after.view place = some Node.emptyDir
  executable : after.view (place ++ [settings.executable.bytes]) ≠ none
  spent : after.isFile (pendingPath settings (pathOf place)) = false
  path : located.path = pathOf (place ++ [settings.executable.bytes])
  located : { located with relocations := [] } = (⟨(pathOf place).child settings.executable.bytes,
    Descriptor.inDirectory settings.executable (pathOf place) settings.hiddenSuffix,
    companionState settings after (pathOf place), []⟩ : Located)
  rooted : ∀ more, Grown after more → more.Plain → more.isDir settings.root = true → more.Leads settings.root root
  foremost : (∀ other, place <+: other → after.view other = some Node.emptyDir → (pathOf other).bytes.length < pathLimit) →
    (pathOf (place ++ [settings.executable.bytes])).bytes.length < pathLimit → Foremost after settings root place

section

variable {settings : Settings} {disk between after more : Disk} {order later : Enumeration} {root place new : Place}

theorem foremost_added (solid : after.Plain) (foremost : Foremost after settings root place)
    (suffixed : HiddenPlace settings.hiddenSuffix place) (added : Added settings (pathOf place) after more)
    (short : ∀ other, Below more root other → (pathOf other).bytes.length < pathLimit) :
    Foremost more settings root place := by
  have directory := added.kept place _ foremost.below.directory
  have named (place : Place) (held : more.view place = some Node.emptyDir) := added.plain.names place (by simp [held])
  obtain ⟨⟨content, executable, held⟩, fits⟩ := (candidate_plain solid foremost.below.directory).mp foremost.candidate
  have there := added.kept _ _ held
  have last := added.plain.named place settings.executable.bytes (by simp [there])
  refine ⟨?_, ⟨foremost.below.inside, directory⟩, ?_, ?_⟩
  · intro other below
    exact (checkPath_pathOf other fun name member => (named other below.directory name member).plain).mpr (short other below)
  · exact (candidate_plain added.plain directory).mpr ⟨⟨content, executable, there⟩, fits⟩
  · intro other below candidate
    by_cases hidden : HiddenPlace settings.hiddenSuffix other
    · -- A hidden candidate is not one of the files that were added.
      obtain ⟨⟨bytes, bit, found⟩, fit⟩ := (candidate_plain added.plain below.directory).mp candidate
      have old : after.view (other ++ [settings.executable.bytes]) ≠ none :=
        fun missing => added.shown other bytes bit found missing hidden
      obtain ⟨node, seen⟩ := Option.ne_none_iff_exists'.mp old
      have same := added.kept _ _ seen
      rw [found, Option.some.injEq] at same
      have top := after.view_parent other settings.executable.bytes old
      refine foremost.first other ⟨below.inside, top⟩ ((candidate_plain solid top).mpr ⟨⟨bytes, bit, ?_⟩, fit⟩)
      rw [seen, same]
    · exact hidden_rank ((parentHidden_pathOf (named place directory) last).mpr suffixed)
        (mt (parentHidden_pathOf (named other below.directory) last).mp hidden)

theorem isFile_beside (solid : after.Plain) (directory : after.view place = some Node.emptyDir)
    (added : Added settings (pathOf place) after more) {name : Bytes} (filled : name ≠ []) (single : slash ∉ name) :
    more.isFile ((pathOf place).child name) = after.isFile ((pathOf place).child name) := by
  rw [Bool.eq_iff_iff, isFile_child solid directory filled single,
    isFile_child added.plain (added.kept place _ directory) filled single, added.beside place name rfl]

section

variable {moved : Option Relocation}

theorem foremost_settling (plain : disk.Plain) (single : '/' ∉ settings.pendingSuffix.toList)
    (apart : settings.pendingCompanion ≠ settings.executable.text) (foremost : Foremost disk settings root place)
    (done : settle settings disk (pathOf place) = .ok (after, moved)) : Foremost after settings root place := by
  rcases settle_moves plain foremost.below.directory done with ⟨_, rfl, _⟩ | ⟨library, settled⟩
  · exact foremost
  · exact foremost_settled plain foremost settled (library_apart plain foremost.below.directory single apart settled)

theorem executable_settling (plain : disk.Plain) (single : '/' ∉ settings.pendingSuffix.toList)
    (apart : settings.pendingCompanion ≠ settings.executable.text) (directory : disk.view place = some Node.emptyDir)
    (held : disk.view (place ++ [settings.executable.bytes]) ≠ none)
    (done : settle settings disk (pathOf place) = .ok (after, moved)) :
    after.view (place ++ [settings.executable.bytes]) ≠ none := by
  rcases settle_moves plain directory done with ⟨_, rfl, _⟩ | ⟨library, settled⟩
  · exact held
  · rwa [settled.kept _ (library_apart plain directory single apart settled place).symm held]

theorem start_settling (plain : disk.Plain) (directory : disk.view place = some Node.emptyDir)
    (done : settle settings disk (pathOf place) = .ok (after, moved)) (bytes : Bytes)
    (top : disk.view (startOf bytes disk.cwd) = some Node.emptyDir) :
    startOf bytes after.cwd = startOf bytes disk.cwd := by
  rcases settle_moves plain directory done with ⟨_, rfl, _⟩ | ⟨library, settled⟩
  · rfl
  · exact settled.start bytes top

theorem resting_already (plain : disk.Plain) (single : '/' ∉ settings.pendingSuffix.toList)
    (apart : settings.pendingCompanion ≠ settings.executable.text) (elected : Elected disk settings root place)
    (suffixed : HiddenPlace settings.hiddenSuffix place)
    (settling : settle settings disk (pathOf place) = .ok (after, moved)) (relocations : List Relocation) :
    Resting settings after ⟨(pathOf place).child settings.executable.bytes,
      Descriptor.inDirectory settings.executable (pathOf place) settings.hiddenSuffix,
      companionState settings after (pathOf place), relocations⟩ root place := by
  have top := elected.below.directory
  obtain ⟨node, held, _⟩ := elected.candidate.entry
  have foremost := foremost_settling plain single apart elected.toForemost settling
  constructor
  case plain => exact settle_plain plain top settling
  case checked => exact elected.checked
  case suffixed => exact suffixed
  case inside => exact elected.below.inside
  case directory => exact foremost.below.directory
  case executable => exact executable_settling plain single apart top (by simp [held]) settling
  case spent => exact settle_spent plain top single settling
  case path => exact child_of_dir plain.toWellFormed top settings.executable.bytes_single
  case located => rfl
  case rooted =>
    intro more grown _ _
    have whole := dir_above root place elected.below.inside top
    rcases settle_moves plain top settling with ⟨_, rfl, _⟩ | ⟨library, settled⟩
    · exact grown.leads elected.leads
    · exact grown.leads (leads_settled plain settled elected.leads whole)
  case foremost => exact fun _ _ => foremost

theorem leads_above (plain : disk.Plain) (hidden : Hidden settings disk between place new)
    (start : ∀ bytes, between.view (startOf bytes between.cwd) = some Node.emptyDir →
      startOf bytes after.cwd = startOf bytes between.cwd) (grown : Grown after more) (later : more.Plain) {path : Path}
    (leads : disk.Leads path root) (top : disk.view root = some Node.emptyDir) (above : ¬ place <+: root)
    (present : more.isDir path = true) : more.Leads path root := by
  obtain ⟨final, leadsMore, topMore⟩ := (isDir_iff more path).mp present
  have onward := leadsMore
  obtain ⟨_, _, wayMore⟩ := onward
  obtain ⟨_, _, way⟩ := leads
  have started := way_start _ _ _ _ top way
  have startBetween := (hidden.renamed.moved _ hidden.vacant (by simp [started])).trans started
  rw [← hidden.start] at startBetween
  have went : startOf path.bytes more.cwd = moveWorking place new (startOf path.bytes disk.cwd) := by
    rw [grown.cwd, start path.bytes startBetween, hidden.start]
  rw [starting, went] at wayMore
  have first := way_along plain _ _ _ _ top way
  have second := way_along later _ _ _ _ topMore wayMore
  obtain ⟨parent, name, old, same, _⟩ := hidden.named
  have side := along_moved ⟨parent, name, _, old, same⟩ (startOf path.bytes disk.cwd) _ (steps path.bytes) (.inr rfl)
  rw [← first, ← second, moved_outside above, or_self] at side
  rwa [side] at leadsMore

theorem resting_hidden (plain : disk.Plain) (single : '/' ∉ settings.pendingSuffix.toList)
    (apart : settings.pendingCompanion ≠ settings.executable.text) (elected : Elected disk settings root place)
    (hidden : Hidden settings disk between place new) (different : root ≠ place)
    (settling : settle settings between (pathOf new) = .ok (after, moved)) (relocations : List Relocation) :
    Resting settings after ⟨(pathOf new).child settings.executable.bytes,
      Descriptor.inDirectory settings.executable (pathOf new) settings.hiddenSuffix,
      companionState settings after (pathOf new), relocations⟩ root new := by
  have solid := hidden.plain plain
  have top := hidden.renamed.arrived_self.trans elected.below.directory
  obtain ⟨node, held, _⟩ := elected.candidate.entry
  have there := (hidden.renamed.arrived [settings.executable.bytes]).trans held
  have directories := settle_directories solid top settling
  have above : ¬ place <+: root := fun inside =>
    different (elected.below.inside.eq_of_length (Nat.le_antisymm elected.below.inside.length_le inside.length_le))
  have root_stays : moveWorking place new root = root := moved_outside above
  constructor
  case plain => exact settle_plain solid top settling
  case checked => exact elected.checked
  case suffixed => exact hidden.suffixed
  case inside => exact root_stays ▸ hidden.root_below elected.below.inside
  case directory => exact (directories new).mpr top
  case executable => exact executable_settling solid single apart top (by simp [there]) settling
  case spent => exact settle_spent solid top single settling
  case path => exact child_of_dir solid.toWellFormed top settings.executable.bytes_single
  case located => rfl
  case rooted =>
    intro more grown later present
    have whole := dir_above root place elected.below.inside elected.below.directory
    exact leads_above plain hidden (start_settling solid top settling) grown later elected.leads whole above present
  case foremost =>
    intro near fits
    have foremost := foremost_hidden plain hidden elected.toForemost
      (fun other inside directory => near other inside ((directories other).mpr directory)) fits
    rw [root_stays] at foremost
    exact foremost_settling solid single apart foremost settling

end

theorem located_resting (plain : disk.Plain) (suffix : '/' ∉ settings.hiddenSuffix.toList)
    (single : '/' ∉ settings.pendingSuffix.toList) (apart : settings.pendingCompanion ≠ settings.executable.text)
    {located : Located} (done : (locate order settings disk).result = .ok located)
    (fixed : ∀ root target, disk.canonical settings.root = .ok root →
      ⟨.hideDirectory, root, target⟩ ∉ located.relocations) :
    ∃ root place, Resting settings (locate order settings disk).disk located root place := by
  obtain ⟨choice, between, directory, hidden, after, moved, made, hid, settling, left, rfl⟩ := locate_cases done
  obtain ⟨root, place, elected, chosen⟩ := choose_eq_ok plain.toWellFormed choice made
  rw [chosen, elected_directory plain.toWellFormed elected] at hid
  rw [left]
  have top := elected.below.directory
  rcases hide_moves plain top suffix hid with ⟨suffixed, rfl, rfl, rfl⟩ | ⟨new, hidden, rfl, _, rfl⟩
  · exact ⟨root, place, resting_already plain single apart elected suffixed settling _⟩
  · have different : root ≠ place := by
      rintro rfl
      obtain ⟨entries, held⟩ := (view_dir disk root).mp top
      have canonical := (canonical_eq_ok disk _ _).mpr ⟨root, _, elected.leads, held, rfl⟩
      exact fixed _ (pathOf new) canonical (by simp)
    exact ⟨root, new, resting_hidden plain single apart elected hidden different settling _⟩

theorem resting_retained (later : Enumeration) (single : '/' ∉ settings.pendingSuffix.toList) {located : Located}
    (resting : Resting settings after located root place) (added : Added settings (pathOf place) after more)
    (reachable : Reachable settings more located.path) : Retained located more (locate later settings more) := by
  have leads := resting.rooted more added.toGrown added.plain reachable.root
  have fits := reachable.executable
  rw [resting.path] at fits
  have foremost := resting.foremost (fun other inside directory =>
    reachable.directories root other leads (resting.inside.trans inside) (added.kept other _ directory)) fits
  have elected : Elected more settings root place := ⟨foremost_added resting.plain foremost resting.suffixed added
    fun other below => reachable.directories root other leads below.inside below.directory, resting.checked, leads⟩
  have spent : more.isFile (pendingPath settings (pathOf place)) = false := by
    rw [← resting.spent]
    exact isFile_beside resting.plain resting.directory added (pendingName_filled settings)
      (pendingName_single settings single)
  obtain ⟨disks, results⟩ := second_settled later settings.root added.plain.toWellFormed elected resting.suffixed
    (settle_absent spent)
  refine ⟨disks, results.trans ?_⟩
  rw [resting.located, companionState, companionState, isFile_beside resting.plain resting.directory added
    settings.companion.bytes_filled settings.companion.bytes_single]

theorem path_elected (solid : more.Plain) (suffix : '/' ∉ settings.hiddenSuffix.toList)
    (held : more.view (place ++ [settings.executable.bytes]) ≠ none) {again : Located}
    (done : (locate later settings more).result = .ok again) (idle : again.relocations = [])
    (same : again.path = pathOf (place ++ [settings.executable.bytes])) : ∃ root, Elected more settings root place := by
  obtain ⟨choice, between, directory, hidden, last, settled, made, hid, _, _, rfl⟩ := locate_cases done
  obtain ⟨root, other, elected, chosen⟩ := choose_eq_ok solid.toWellFormed choice made
  rw [chosen, elected_directory solid.toWellFormed elected] at hid
  rcases hide_moves solid elected.below.directory suffix hid with ⟨_, rfl, rfl, rfl⟩ | ⟨_, _, _, _, rfl⟩
  · obtain ⟨node, seen, _⟩ := elected.candidate.entry
    have path := child_of_dir solid.toWellFormed elected.below.directory settings.executable.bytes_single
    have equal := place_unique solid.toWellFormed (by simp [seen]) held (path.symm.trans same)
    obtain ⟨rfl, _⟩ := List.append_inj' equal rfl
    exact ⟨root, elected⟩
  · cases idle

theorem elected_reachable (solid : more.Plain) (elected : Elected more settings root place) :
    Reachable settings more (pathOf (place ++ [settings.executable.bytes])) where
  root := (isDir_iff more _).mpr ⟨root, elected.leads, dir_above root place elected.below.inside elected.below.directory⟩
  executable := ((candidate_plain solid elected.below.directory).mp elected.candidate).2
  directories other place leads inside directory := by
    obtain rfl := leads_unique more _ _ _ leads elected.leads
    exact ((checkPath_ok _).mp (elected.short place ⟨inside, directory⟩)).2.2

-- A compiler that was located is located again on a disk to which something was added, and
-- nothing is done, exactly if it is still in reach.
theorem locate_added_iff (plain : disk.Plain) (suffix : '/' ∉ settings.hiddenSuffix.toList)
    (single : '/' ∉ settings.pendingSuffix.toList) (apart : settings.pendingCompanion ≠ settings.executable.text)
    {located : Located} (done : (locate order settings disk).result = .ok located)
    (fixed : ∀ root target, disk.canonical settings.root = .ok root →
      ⟨.hideDirectory, root, target⟩ ∉ located.relocations)
    (added : Added settings located.descriptor.directory (locate order settings disk).disk more) (later : Enumeration) :
    (Retained located more (locate later settings more) ↔ Reachable settings more located.path) ∧
      ∀ again, (locate later settings more).result = .ok again → again.path = located.path →
        again.relocations = [] → Reachable settings more located.path := by
  obtain ⟨root, place, resting⟩ := located_resting plain suffix single apart done fixed
  have directory : located.descriptor.directory = pathOf place := congrArg (fun other => other.descriptor.directory) resting.located
  rw [directory] at added
  have held := added.toGrown.held resting.executable
  have back (again : Located) (found : (locate later settings more).result = .ok again)
      (same : again.path = located.path) (idle : again.relocations = []) : Reachable settings more located.path := by
    obtain ⟨other, elected⟩ := path_elected added.plain suffix held found idle (same.trans resting.path)
    rw [resting.path]
    exact elected_reachable added.plain elected
  refine ⟨⟨fun retained => back _ retained.located rfl rfl, resting_retained later single resting added⟩, back⟩

end

def newDirectory : Place := [Utf8.ofString "New"]

def extendedDisk : Disk :=
  (settledDisk.set newDirectory (some (.dir .nil))).set (newDirectory ++ [Utf8.ofString "ink"]) (some (.file [3] true))

theorem newDirectory_view (place : Place) : (settledDisk.set newDirectory (some (.dir .nil))).view place =
    if newDirectory <+: place then (Node.dir .nil).view (place.drop newDirectory.length) else settledDisk.view place :=
  @view_put settledDisk [] (Utf8.ofString "New") (view_nil settledDisk) (.dir .nil) place

theorem extendedDisk_view (place : Place) (outside : ¬ newDirectory <+: place) :
    extendedDisk.view place = settledDisk.view place := by
  have below : ¬ newDirectory ++ [Utf8.ofString "ink"] <+: place := fun inside =>
    outside ((List.prefix_append _ _).trans inside)
  rw [extendedDisk, view_put (by decide), if_neg below, newDirectory_view, if_neg outside]

theorem extendedDisk_new (more : Place) (filled : more ≠ []) (held : extendedDisk.view (newDirectory ++ more) ≠ none) :
    more = [Utf8.ofString "ink"] := by
  obtain ⟨name, rest, rfl⟩ := List.exists_cons_of_ne_nil filled
  have fresh : (settledDisk.set newDirectory (some (.dir .nil))).view (newDirectory ++ name :: rest) = none := by
    rw [newDirectory_view, if_pos (List.prefix_append _ _), List.drop_left]
    rfl
  rw [extendedDisk, view_put (by decide)] at held
  split at held
  · rename_i inside
    obtain ⟨below, same⟩ := inside
    rw [List.append_assoc] at same
    obtain ⟨rfl, rfl⟩ := List.cons.inj (List.append_cancel_left same)
    cases below with
    | nil => rfl
    | cons next others => exact absurd rfl held
  · exact absurd fresh held

theorem extendedDisk_directories (place : Place) (directory : extendedDisk.view place = some Node.emptyDir) :
    place = [] ∨ place = [Utf8.ofString "Ink~"] ∨ place = newDirectory := by
  by_cases inside : newDirectory <+: place
  · obtain ⟨more, rfl⟩ := inside
    by_cases here : more = []
    · exact .inr (.inr (by rw [here, List.append_nil]))
    · rw [extendedDisk_new more here (by simp [directory])] at directory
      exact absurd directory (by decide)
  · rw [extendedDisk_view place inside] at directory
    exact (settledDisk_directories place directory).imp_right .inl

theorem extended_added (root : Path) :
    Added { pendingSettings with root := root } (Path.ofString "/Ink~") settledDisk extendedDisk where
  toGrown := by
    have first : Grown settledDisk (settledDisk.set newDirectory (some (.dir .nil))) :=
      @put_grown settledDisk [] (Utf8.ofString "New") (view_nil settledDisk) (by decide) (.dir .nil)
    exact first.trans (put_grown (by decide) (by decide) _)
  plain := plain_of_every (by decide) (by decide)
  shown place content executable found missing hidden := by
    have found : extendedDisk.view (place ++ [Utf8.ofString "ink"]) = some (.file content executable) := found
    have missing : settledDisk.view (place ++ [Utf8.ofString "ink"]) = none := missing
    have hidden : HiddenPlace "~" place := hidden
    by_cases inside : newDirectory <+: place ++ [Utf8.ofString "ink"]
    · obtain ⟨more, same⟩ := inside
      have filled : more ≠ [] := by
        rintro rfl
        have same : [] ++ [Utf8.ofString "New"] = place ++ [Utf8.ofString "ink"] := same
        exact absurd (List.append_inj' same rfl).2 (by decide)
      have held : extendedDisk.view (newDirectory ++ more) ≠ none := by
        rw [same, found]
        exact Option.some_ne_none _
      rw [extendedDisk_new more filled held] at same
      obtain ⟨rfl, _⟩ := List.append_inj' same rfl
      obtain ⟨name, last, ending⟩ := hidden
      cases last
      have ending : Utf8.ofString "~" <:+ Utf8.ofString "New" := ending
      exact absurd ending (by decide)
    · rw [extendedDisk_view _ inside, missing] at found
      cases found
  beside place name same := by
    refine extendedDisk_view _ fun inside => ?_
    cases place with
    | nil => exact absurd same (by decide)
    | cons first rest =>
      obtain ⟨more, whole⟩ := inside
      obtain ⟨rfl, _⟩ := List.cons.inj whole
      have second := congrArg (fun path => path.bytes[1]?) same
      have letter : (pathOf (Utf8.ofString "New" :: rest)).bytes[1]? = some 0x4E := by cases rest <;> rfl
      rw [letter] at second
      exact absurd second (by decide)

def shownLocated : Located where
  path := Path.ofString "/Ink~/ink"
  descriptor := ⟨pendingSettings.executable, Path.ofString "/Ink~", true⟩
  companion := .installed pendingSettings.companion
  relocations := [⟨.hideDirectory, Path.ofString "/Ink", Path.ofString "/Ink~"⟩,
    ⟨.renameCompanion, Path.ofString "/Ink~/rt.dll.temp", Path.ofString "/Ink~/rt.dll"⟩]

theorem shownLocated_fixed {settings : Settings} (top : shownDisk.canonical settings.root = .ok (Path.ofString "/"))
    (root target : Path) (canonical : shownDisk.canonical settings.root = .ok root) :
    ⟨.hideDirectory, root, target⟩ ∉ shownLocated.relocations := by
  rw [top, Except.ok.injEq] at canonical
  subst canonical
  have different : Path.ofString "/" ≠ Path.ofString "/Ink" := by decide
  intro member
  rcases List.mem_cons.mp member with same | later
  · exact different (congrArg Relocation.source same)
  · cases List.mem_singleton.mp later

theorem shown_compiler_retained : (locate .sorted pendingSettings shownDisk).result = .ok shownLocated ∧
    (locate .sorted pendingSettings shownDisk).disk = settledDisk ∧
    extendedDisk.isFile (Path.ofString "/New/ink") = true ∧
    Retained shownLocated extendedDisk (locate .sorted pendingSettings extendedDisk) := by
  have done : (locate .sorted pendingSettings shownDisk).result = .ok shownLocated := by decide +kernel
  have disk : (locate .sorted pendingSettings shownDisk).disk = settledDisk := by decide +kernel
  have added : Added pendingSettings shownLocated.descriptor.directory (locate .sorted pendingSettings shownDisk).disk
      extendedDisk := by
    rw [disk]
    exact extended_added (Path.ofString "/")
  refine ⟨done, disk, by decide +kernel, ?_⟩
  refine (locate_added_iff shownDisk_plain (by decide) (by decide) (by decide) done
    (shownLocated_fixed (by decide +kernel)) added .sorted).1.mpr ?_
  refine ⟨by decide +kernel, by decide, fun root place _ _ directory => ?_⟩
  rcases extendedDisk_directories place directory with rfl | rfl | rfl <;> decide

theorem addition_lost : throughSettings.check = .ok () ∧ shownDisk.Plain ∧
    '/' ∉ throughSettings.hiddenSuffix.toList ∧ '/' ∉ throughSettings.pendingSuffix.toList ∧
    throughSettings.pendingCompanion ≠ throughSettings.executable.text ∧
    (locate .sorted throughSettings shownDisk).result = .ok shownLocated ∧
    (∀ root target, shownDisk.canonical throughSettings.root = .ok root →
      ⟨.hideDirectory, root, target⟩ ∉ shownLocated.relocations) ∧
    Added throughSettings shownLocated.descriptor.directory (locate .sorted throughSettings shownDisk).disk extendedDisk ∧
    (locate .sorted throughSettings extendedDisk).result.isOk = false ∧
    ¬ Retained shownLocated extendedDisk (locate .sorted throughSettings extendedDisk) := by
  have disk : (locate .sorted throughSettings shownDisk).disk = settledDisk := by decide +kernel
  have lost : (locate .sorted throughSettings extendedDisk).result.isOk = false := by decide +kernel
  refine ⟨by decide, shownDisk_plain, by decide, by decide, by decide, by decide +kernel,
    shownLocated_fixed (by decide +kernel), ?_, lost, ?_⟩
  · rw [disk]
    exact extended_added (Path.ofString "/Ink/..")
  · intro retained
    rw [retained.located] at lost
    cases lost

end InkProject.Compiler
