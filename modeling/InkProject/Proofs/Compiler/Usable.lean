import InkProject.Proofs.Compiler.Relocations
set_option autoImplicit false

namespace InkProject.Compiler

open Disk InkProject.Path

def LibraryBeside (settings : Settings) (disk : Disk) (directory : Path) : Prop :=
  ∃ entries content executable, disk.list directory = .ok entries ∧
    entries.find? settings.companion.bytes = some (.file content executable)

structure Usable (settings : Settings) (disk after : Disk) (chosen : Path) (located : Located) : Prop where
  path : located.path = located.descriptor.directory.child settings.executable.bytes
  file : after.isFile located.path = true
  content : after.read located.path = disk.read chosen
  hidden : located.descriptor.hidden = true
  suffixed : ∃ name, located.descriptor.directory.fileName? = some name ∧ Utf8.ofString settings.hiddenSuffix <:+ name
  companion : located.companion = .installed settings.companion ↔ LibraryBeside settings after located.descriptor.directory

section

variable {settings : Settings} {disk after between : Disk} {order : Enumeration} {place : Place}

theorem suffix_single (directory : Path) (suffix : String) (hidden : isHidden directory suffix = true) :
    '/' ∉ suffix.toList := by
  rw [isHidden] at hidden
  split at hidden
  · rename_i name found
    intro member
    apply fileName?_single directory name found
    obtain ⟨before, whole⟩ := List.isSuffixOf_iff_suffix.mp hidden
    rw [← whole, List.mem_append]
    exact .inr ((Utf8.slash_mem_ofString suffix).mpr member)
  · cases hidden

theorem hide_place (plain : disk.Plain) (directory : disk.view place = some Node.emptyDir)
    (single : '/' ∉ settings.hiddenSuffix.toList) {target : Path} {moved : Option Relocation}
    (hid : hide settings disk (pathOf place) = .ok (between, target, moved)) : between.Plain ∧
      ∃ new, target = pathOf new ∧ HiddenPlace settings.hiddenSuffix new ∧
        ∀ more, between.view (new ++ more) = disk.view (place ++ more) := by
  rcases hide_moves plain directory single hid with ⟨already, rfl, rfl, _⟩ | ⟨new, hidden, rfl, _, _⟩
  · exact ⟨plain, place, rfl, already, fun more => rfl⟩
  · exact ⟨hidden.plain plain, new, rfl, hidden.suffixed, hidden.renamed.arrived⟩

theorem companion_beside (settings : Settings) (plain : disk.Plain) (directory : disk.view place = some Node.emptyDir) :
    companionState settings disk (pathOf place) = .installed settings.companion ↔
      (∃ content executable, disk.view (place ++ [settings.companion.bytes]) = some (.file content executable)) ∧
        (finalPath settings (pathOf place)).bytes.length < pathLimit := by
  have file := isFile_child plain directory settings.companion.bytes_filled settings.companion.bytes_single
  rw [companionState, finalPath, ← file]
  split <;> simp_all

theorem libraryBeside_iff (settings : Settings) (plain : disk.Plain) (directory : disk.view place = some Node.emptyDir)
    (short : (pathOf place).bytes.length < pathLimit) : LibraryBeside settings disk (pathOf place) ↔
      ∃ content executable, disk.view (place ++ [settings.companion.bytes]) = some (.file content executable) := by
  have leads := leads_dir plain.toWellFormed directory short
  obtain ⟨entries, held⟩ := (view_dir disk place).mp directory
  constructor
  · intro holds
    obtain ⟨listed, content, executable, list, found⟩ := holds
    obtain ⟨other, also, there⟩ := (list_eq_ok disk _ listed).mp list
    obtain rfl := leads_unique disk _ _ _ leads also
    refine ⟨content, executable, (view_leaf disk _ _ rfl).mpr ?_⟩
    rw [Entries.at?_child disk.top listed place _ there, found]
  · intro holds
    obtain ⟨content, executable, there⟩ := holds
    have found := (view_leaf disk _ _ rfl).mp there
    rw [Entries.at?_child disk.top entries place _ held] at found
    exact ⟨entries, content, executable, (list_eq_ok disk _ entries).mpr ⟨place, leads, held⟩, found⟩

-- The executable survives settling unless the pending path leads to it.
theorem settle_executable (plain : between.Plain) (directory : between.view place = some Node.emptyDir)
    {moved : Option Relocation} (done : settle settings between (pathOf place) = .ok (after, moved)) {name content : Bytes}
    {executable : Bool} (held : between.view (place ++ [name]) = some (.file content executable)) :
    after.isFile ((pathOf place).child name) = true ↔ ((pathOf place).child name).bytes.length < pathLimit ∧
      ¬ ∃ other, between.Leads (pendingPath settings (pathOf place)) other ∧
        between.Leads ((pathOf place).child name) other := by
  have entry := plain.names (place ++ [name]) (by simp [held]) name (by simp)
  have directoryAfter := (settle_directories plain directory done place).mpr directory
  rw [isFile_child (settle_plain plain directory done) directoryAfter entry.filled entry.single]
  constructor
  · intro holds
    obtain ⟨⟨_, _, there⟩, short⟩ := holds
    refine ⟨short, ?_⟩
    intro holds
    obtain ⟨other, pending, leads⟩ := holds
    obtain rfl := leads_unique between _ _ _ leads (leads_child_plain plain (by simp [held]) short)
    rw [settle_takes plain directory done held pending] at there
    cases there
  · intro holds
    obtain ⟨short, apart⟩ := holds
    have leads := leads_child_plain plain (by simp [held]) short
    have same := settle_spares plain directory done (by simp [held]) fun pending => apart ⟨_, pending, leads⟩
    exact ⟨⟨content, executable, same.trans held⟩, short⟩

theorem settle_content (plain : between.Plain) (directory : between.view place = some Node.emptyDir)
    {moved : Option Relocation} (done : settle settings between (pathOf place) = .ok (after, moved)) {name content : Bytes}
    {executable : Bool} (held : between.view (place ++ [name]) = some (.file content executable))
    (file : after.isFile ((pathOf place).child name) = true) : after.read ((pathOf place).child name) = .ok content := by
  obtain ⟨short, apart⟩ := (settle_executable plain directory done held).mp file
  have leads := leads_child_plain plain (by simp [held]) short
  have same := settle_spares plain directory done (by simp [held]) fun pending => apart ⟨_, pending, leads⟩
  have there := same.trans held
  exact read_file (leads_child_plain (settle_plain plain directory done) (by simp [there]) short) there

theorem chosen_content (plain : disk.Plain) {root : Place} (elected : Elected disk settings root place) :
    ∃ content executable, disk.view (place ++ [settings.executable.bytes]) = some (.file content executable) ∧
      disk.read (pathOf (place ++ [settings.executable.bytes])) = .ok content := by
  have directory := elected.below.directory
  have path := child_of_dir plain.toWellFormed directory settings.executable.bytes_single
  have file := elected.candidate.file
  rw [← path] at file
  obtain ⟨⟨content, executable, held⟩, short⟩ :=
    (isFile_child plain directory settings.executable.bytes_filled settings.executable.bytes_single).mp file
  refine ⟨content, executable, held, ?_⟩
  rw [← path]
  exact read_file (leads_child_plain plain (by simp [held]) short) held

theorem located_usable_iff (plain : disk.Plain) (choice : Choice) (made : (choose order settings disk).2 = .ok choice)
    (directory : Path) (moved : Option Relocation)
    (hid : hide settings disk (directoryOf choice.chosen) = .ok (between, directory, moved)) (located : Located)
    (done : (locate order settings disk).result = .ok located) :
    Usable settings disk (locate order settings disk).disk choice.chosen located ↔
      '/' ∉ settings.hiddenSuffix.toList ∧ located.path.bytes.length < pathLimit ∧
        (¬ ∃ place, between.Leads (pendingPath settings directory) place ∧ between.Leads located.path place) ∧
        (LibraryBeside settings (locate order settings disk).disk directory →
          (finalPath settings directory).bytes.length < pathLimit) := by
  obtain ⟨_, _, _, _, after, settled, also, same, settling, ended, shape⟩ := locate_cases done
  rw [made, Except.ok.injEq] at also
  subst also
  rw [hid, Except.ok.injEq, Prod.mk.injEq, Prod.mk.injEq] at same
  obtain ⟨rfl, rfl, rfl⟩ := same
  rw [ended]
  subst shape
  obtain ⟨root, place, elected, chosen⟩ := choose_eq_ok plain.toWellFormed choice made
  rw [chosen, elected_directory plain.toWellFormed elected] at hid
  obtain ⟨content, executable, held, read⟩ := chosen_content plain elected
  by_cases single : '/' ∈ settings.hiddenSuffix.toList
  · constructor
    · intro usable
      exact absurd single (suffix_single directory settings.hiddenSuffix usable.hidden)
    · intro conditions
      exact absurd single conditions.1
  obtain ⟨solid, new, rfl, suffixed, arrived⟩ := hide_place plain elected.below.directory single hid
  have top : between.view new = some Node.emptyDir := by
    simpa only [List.append_nil] using (arrived []).trans (by rw [List.append_nil]; exact elected.below.directory)
  have heldBetween := (arrived [settings.executable.bytes]).trans held
  have file := settle_executable solid top settling heldBetween
  have solidAfter := settle_plain solid top settling
  have topAfter := (settle_directories solid top settling new).mpr top
  have beside := companion_beside settings solidAfter topAfter
  have namedNew := solid.names new (by simp [top])
  constructor
  · intro usable
    obtain ⟨short, apart⟩ := file.mp usable.file
    exact ⟨single, short, apart, fun library => (beside.mp (usable.companion.mpr library)).2⟩
  · intro conditions
    obtain ⟨_, short, apart, fits⟩ := conditions
    have there := file.mpr ⟨short, apart⟩
    have shortDirectory := Nat.lt_of_le_of_lt (child_longer settings.executable.bytes_single) short
    have library := libraryBeside_iff settings solidAfter topAfter shortDirectory
    refine ⟨rfl, there, ?_, (isHidden_pathOf namedNew).mpr suffixed, ?_, ?_⟩
    · rw [chosen, read]
      exact settle_content solid top settling heldBetween there
    · obtain ⟨name, last, ending⟩ := suffixed
      obtain ⟨above, rfl⟩ := List.getLast?_eq_some_iff.mp last
      exact ⟨name, fileName?_pathOf namedNew, ending⟩
    · constructor
      · intro installed
        exact library.mpr (beside.mp installed).1
      · intro stands
        exact beside.mpr ⟨library.mp stands, fits stands⟩

end

def shownDisk : Disk :=
  let entries : Entries := .cons (Utf8.ofString "ink") (.file [2] true) (.cons (Utf8.ofString "rt.dll.temp") (.file [1] false) .nil)
  ⟨.cons (Utf8.ofString "Ink") (.dir entries) .nil, []⟩

theorem shownDisk_plain : shownDisk.Plain := plain_of_every (by decide) (by decide)

theorem shown_compiler_usable : ∃ choice located, (choose .sorted pendingSettings shownDisk).2 = .ok choice ∧
    (locate .sorted pendingSettings shownDisk).result = .ok located ∧
    Usable pendingSettings shownDisk (locate .sorted pendingSettings shownDisk).disk choice.chosen located := by
  have made : (choose .sorted pendingSettings shownDisk).2 = .ok ⟨Path.ofString "/Ink/ink", []⟩ := by decide +kernel
  have done : (locate .sorted pendingSettings shownDisk).result = .ok ⟨Path.ofString "/Ink~/ink",
      ⟨⟨"ink", by decide⟩, Path.ofString "/Ink~", true⟩, .installed ⟨"rt.dll", by decide⟩,
      [⟨.hideDirectory, Path.ofString "/Ink", Path.ofString "/Ink~"⟩,
        ⟨.renameCompanion, Path.ofString "/Ink~/rt.dll.temp", Path.ofString "/Ink~/rt.dll"⟩]⟩ := by decide +kernel
  obtain ⟨between, hid, pending, executable⟩ : ∃ between : Disk,
      hide pendingSettings shownDisk (Path.ofString "/Ink") = .ok (between, Path.ofString "/Ink~",
        some ⟨.hideDirectory, Path.ofString "/Ink", Path.ofString "/Ink~"⟩) ∧
      between.Leads (Path.ofString "/Ink~/rt.dll.temp") [Utf8.ofString "Ink~", Utf8.ofString "rt.dll.temp"] ∧
      between.Leads (Path.ofString "/Ink~/ink") [Utf8.ofString "Ink~", Utf8.ofString "ink"] :=
    ⟨_, rfl, ((locate_eq_ok _ _ _ _).mp rfl).1, ((locate_eq_ok _ _ _ _).mp rfl).1⟩
  refine ⟨_, _, made, done, (located_usable_iff shownDisk_plain _ made _ _ hid _ done).mpr ⟨by decide, by decide, ?_, ?_⟩⟩
  · intro holds
    obtain ⟨place, first, second⟩ := holds
    rw [leads_unique between _ _ _ first pending] at second
    exact absurd (leads_unique between _ _ _ second executable) (by decide)
  · exact fun _ => by decide

theorem pending_executable_lost :
    let settings : Settings := ⟨Path.ofString "/", ⟨"rt.dll.temp", by decide⟩, ⟨"rt.dll", by decide⟩, "~", ".temp"⟩
    ∃ choice located, (pendingDisk none).Plain ∧ (choose .sorted settings (pendingDisk none)).2 = .ok choice ∧
      (locate .sorted settings (pendingDisk none)).result = .ok located ∧
      ¬ Usable settings (pendingDisk none) (locate .sorted settings (pendingDisk none)).disk choice.chosen located := by
  refine ⟨⟨Path.ofString "/Ink~/rt.dll.temp", []⟩, ⟨Path.ofString "/Ink~/rt.dll.temp", ⟨⟨"rt.dll.temp", by decide⟩,
    Path.ofString "/Ink~", true⟩, .installed ⟨"rt.dll", by decide⟩,
    [⟨.renameCompanion, Path.ofString "/Ink~/rt.dll.temp", Path.ofString "/Ink~/rt.dll"⟩]⟩,
    plain_of_every (by decide) (by decide), by decide +kernel, by decide +kernel, fun usable => ?_⟩
  exact absurd usable.file (by decide +kernel)

end InkProject.Compiler
