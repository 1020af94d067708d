import InkProject.Proofs.Compiler.Relocations
import InkProject.Proofs.Disk.Moved
set_option autoImplicit false

namespace InkProject.Compiler

open Disk InkProject.Path

section

variable {settings : Settings} {disk after : Disk} {root place new : Place}

theorem candidate_plain (plain : disk.Plain) {name : FileName} (directory : disk.view place = some Node.emptyDir) :
    Candidate disk name place ↔
      (∃ content executable, disk.view (place ++ [name.bytes]) = some (.file content executable)) ∧
        (pathOf (place ++ [name.bytes])).bytes.length < pathLimit := by
  have file := isFile_child plain directory name.bytes_filled name.bytes_single
  rw [child_of_dir plain.toWellFormed directory name.bytes_single] at file
  constructor
  · intro candidate
    exact file.mp candidate.file
  · intro held
    obtain ⟨content, executable, there⟩ := held.1
    exact ⟨⟨_, there, rfl⟩, file.mpr held⟩

theorem pathOf_longer (a b more : Place) (longer : weight a ≤ weight b) (filled : more ≠ []) :
    (pathOf (a ++ more)).bytes.length ≤ (pathOf (b ++ more)).bytes.length := by
  rw [pathOf_length _ (by simp [filled]), pathOf_length _ (by simp [filled]), weight_append, weight_append]
  omega

theorem Hidden.longer (hidden : Hidden settings disk after place new) :
    weight place ≤ weight new := by
  obtain ⟨above, name, rfl, rfl, _⟩ := hidden.named
  simp [weight_append, weight]

theorem Hidden.root_below (hidden : Hidden settings disk after place new) (inside : root <+: place) :
    moveWorking place new root <+: new := by
  obtain ⟨above, name, rfl, rfl, _⟩ := hidden.named
  rcases List.prefix_concat_iff.mp inside with rfl | before
  · simp [moved_self]
  · rw [moved_outside fun below => absurd (Nat.le_trans below.length_le before.length_le) (by simp)]
    exact before.trans (List.prefix_append _ _)

theorem Hidden.below (hidden : Hidden settings disk after place new) (inside : root <+: place) {other : Place}
    (below : Below after (moveWorking place new root) other) : Below disk root (moveWorking new place other) where
  directory := (hidden.renamed.origin _ (by simp [below.directory])).trans below.directory
  inside := by
    by_cases under : new <+: other
    · obtain ⟨more, rfl⟩ := under
      rw [moved_below]
      exact inside.trans (List.prefix_append place more)
    · have apart : ¬ place <+: root := by
        intro same
        apply under
        have start := below.inside
        rwa [List.IsPrefix.eq_of_length inside (Nat.le_antisymm inside.length_le same.length_le), moved_self] at start
      have start := below.inside
      rw [moved_outside apart] at start
      rwa [moved_outside under]

theorem hiddenPlace_moved {suffix : String} {other : Place} (different : other ≠ new)
    (hidden : HiddenPlace suffix other) : HiddenPlace suffix (moveWorking new place other) := by
  by_cases under : new <+: other
  · obtain ⟨more, rfl⟩ := under
    have filled : more ≠ [] := by
      intro empty
      exact different (by simp [empty])
    obtain ⟨name, last, ending⟩ := hidden
    refine ⟨name, ?_, ending⟩
    rw [List.getLast?_append_of_ne_nil _ filled] at last
    rw [moved_below, List.getLast?_append_of_ne_nil _ filled, last]
  · rwa [moved_outside under]

theorem Hidden.candidate (plain : disk.Plain) (hidden : Hidden settings disk after place new)
    (top : disk.view place = some Node.emptyDir) {other : Place} {name : FileName}
    (directory : after.view other = some Node.emptyDir) (candidate : Candidate after name other) :
    Candidate disk name (moveWorking new place other) := by
  obtain ⟨⟨content, executable, held⟩, short⟩ := (candidate_plain (hidden.plain plain) directory).mp candidate
  have origin := hidden.renamed.origin other (by simp [directory])
  have file := hidden.renamed.origin (other ++ [name.bytes]) (by simp [held])
  have different : new ≠ other ++ [name.bytes] := by
    intro same
    rw [← same, moved_self, top, same, held] at file
    cases file
  rw [moved_child _ different] at file
  refine (candidate_plain plain (origin.trans directory)).mpr ⟨⟨content, executable, file.trans held⟩, ?_⟩
  by_cases under : new <+: other
  · obtain ⟨more, rfl⟩ := under
    rw [List.append_assoc] at short
    rw [moved_below, List.append_assoc]
    exact Nat.lt_of_le_of_lt (pathOf_longer place new _ hidden.longer (by simp)) short
  · rwa [moved_outside under]

theorem hidden_rank {x y : Path} {suffix : String} (hidden : parentHidden x suffix = true)
    (shown : ¬ parentHidden y suffix = true) : rank suffix x ≤ rank suffix y := by
  rw [rank, rank, if_pos hidden, if_neg shown, List.cons_le_cons_iff]
  exact .inl (by decide)

-- All other hidden candidates would have come before the directory that was taken.
theorem Hidden.only (plain : disk.Plain) (hidden : Hidden settings disk after place new)
    (foremost : Foremost disk settings root place) {other : Place}
    (below : Below after (moveWorking place new root) other) (candidate : Candidate after settings.executable other)
    (suffixed : HiddenPlace settings.hiddenSuffix other) : other = new := by
  refine Classical.byContradiction fun different => hidden.shown ?_
  have origin := hidden.below foremost.below.inside below
  have also := hidden.candidate plain foremost.below.directory below.directory candidate
  have least := foremost.first _ origin also
  have named (place : Place) (held : disk.view place = some Node.emptyDir) := plain.names place (by simp [held])
  obtain ⟨node, held, _⟩ := foremost.candidate.entry
  have last := plain.named place settings.executable.bytes (by simp [held])
  have earlier := (parentHidden_pathOf (named _ origin.directory) last).mpr (hiddenPlace_moved different suffixed)
  exact (parentHidden_pathOf (named _ foremost.below.directory) last).mp (hidden_first earlier least)

theorem foremost_hidden (plain : disk.Plain) (hidden : Hidden settings disk after place new)
    (foremost : Foremost disk settings root place)
    (near : ∀ other, new <+: other → after.view other = some Node.emptyDir → (pathOf other).bytes.length < pathLimit)
    (fits : (pathOf (new ++ [settings.executable.bytes])).bytes.length < pathLimit) :
    Foremost after settings (moveWorking place new root) new := by
  have later := hidden.plain plain
  have top : after.view new = some Node.emptyDir := hidden.renamed.arrived_self.trans foremost.below.directory
  have named (place : Place) (held : after.view place = some Node.emptyDir) := later.names place (by simp [held])
  obtain ⟨⟨content, executable, held⟩, _⟩ := (candidate_plain plain foremost.below.directory).mp foremost.candidate
  have there := (hidden.renamed.arrived [settings.executable.bytes]).trans held
  have last := later.named new settings.executable.bytes (by simp [there])
  refine ⟨?_, ⟨hidden.root_below foremost.below.inside, top⟩, ?_, ?_⟩
  · intro other below
    by_cases under : new <+: other
    · exact (checkPath_pathOf other fun name member => (named other below.directory name member).plain).mpr
        (near other under below.directory)
    · have origin := hidden.below foremost.below.inside below
      rw [moved_outside under] at origin
      exact foremost.short other origin
  · exact (candidate_plain later top).mpr ⟨⟨content, executable, there⟩, fits⟩
  · intro other below candidate
    have hiddenNew := (parentHidden_pathOf (named new top) last).mpr hidden.suffixed
    by_cases suffixed : HiddenPlace settings.hiddenSuffix other
    · rw [hidden.only plain foremost below candidate suffixed]
      exact List.le_refl _
    · exact hidden_rank hiddenNew (mt (parentHidden_pathOf (named other below.directory) last).mp suffixed)

variable {moved : Option Relocation} {library : Place}

theorem library_place (plain : disk.Plain) (top : disk.view place = some Node.emptyDir)
    (single : '/' ∉ settings.pendingSuffix.toList) (settled : Settled settings disk after place library) :
    library = place ++ [pendingName settings] := by
  have reaches := reaches_pathOf plain.toWellFormed top
  obtain ⟨_, left, way⟩ :=
    (leads_child reaches (pendingName_filled settings) (pendingName_single settings single)).mp settled.pending
  obtain ⟨content, executable, held⟩ := settled.file
  rcases way_child plain top _ _ _ way with directory | ⟨_, same, _⟩
  · rw [held] at directory
    cases directory
  · exact same

theorem settle_absent {directory : Path} (absent : disk.isFile (pendingPath settings directory) = false) :
    settle settings disk directory = .ok (disk, none) := by
  rw [pendingPath] at absent
  simp only [settle, absent, Bool.not_false, if_true]

theorem settle_spent (plain : disk.Plain) (top : disk.view place = some Node.emptyDir)
    (single : '/' ∉ settings.pendingSuffix.toList) (done : settle settings disk (pathOf place) = .ok (after, moved)) :
    after.isFile (pendingPath settings (pathOf place)) = false := by
  rcases settle_moves plain top done with ⟨absent, rfl, _⟩ | ⟨library, settled⟩
  · exact absent
  · have topAfter := (settled.directories place).mpr top
    refine Bool.eq_false_iff.mpr fun file => ?_
    obtain ⟨⟨content, executable, held⟩, _⟩ := (isFile_child settled.plain topAfter (pendingName_filled settings)
      (pendingName_single settings single)).mp file
    rw [← library_place plain top single settled, settled.gone] at held
    cases held

theorem settle_again (plain : disk.Plain) (top : disk.view place = some Node.emptyDir)
    (single : '/' ∉ settings.pendingSuffix.toList) (done : settle settings disk (pathOf place) = .ok (after, moved)) :
    settle settings after (pathOf place) = .ok (after, none) :=
  settle_absent (settle_spent plain top single done)

theorem foremost_settled (plain : disk.Plain) (foremost : Foremost disk settings root place)
    (settled : Settled settings disk after place library) (apart : ∀ other, library ≠ other ++ [settings.executable.bytes]) :
    Foremost after settings root place := by
  have belows (other : Place) : Below after root other ↔ Below disk root other :=
    ⟨fun below => ⟨below.inside, (settled.directories other).mp below.directory⟩,
      fun below => ⟨below.inside, (settled.directories other).mpr below.directory⟩⟩
  obtain ⟨⟨first, bit, held⟩, _⟩ := (candidate_plain plain foremost.below.directory).mp foremost.candidate
  have candidates (other : Place) (directory : disk.view other = some Node.emptyDir) :
      Candidate after settings.executable other ↔ Candidate disk settings.executable other := by
    rw [candidate_plain plain directory, candidate_plain settled.plain ((settled.directories other).mpr directory)]
    refine and_congr_left fun _ => ⟨?_, ?_⟩
    · intro file
      obtain ⟨content, executable, there⟩ := file
      rcases settled.fresh _ _ there with same | ⟨same, vacant, _⟩
      · exact ⟨content, executable, same⟩
      · obtain ⟨rfl, tail⟩ := List.append_inj' same rfl
        rw [held] at vacant
        cases vacant
    · intro file
      obtain ⟨content, executable, there⟩ := file
      exact ⟨content, executable, (settled.kept _ (apart other).symm (by simp [there])).trans there⟩
  refine ⟨fun other below => foremost.short other ((belows other).mp below), (belows place).mpr foremost.below,
    (candidates place foremost.below.directory).mpr foremost.candidate, fun other below candidate => ?_⟩
  have before := (belows other).mp below
  exact foremost.first other before ((candidates other before.directory).mp candidate)

end

section

variable {settings : Settings} {disk between after : Disk} {root place new : Place}

theorem Hidden.start (hidden : Hidden settings disk between place new) (bytes : Bytes) :
    startOf bytes between.cwd = moveWorking place new (startOf bytes disk.cwd) := by
  obtain ⟨above, name, same, other, _⟩ := hidden.named
  rw [hidden.renamed.cwd, startOf_beside ⟨above, name, _, same, other⟩]

theorem leads_again (plain : disk.Plain) (hidden : Hidden settings disk between place new) (later : after.Plain)
    (directories : ∀ other, after.view other = some Node.emptyDir ↔ between.view other = some Node.emptyDir)
    (start : ∀ bytes, between.view (startOf bytes between.cwd) = some Node.emptyDir →
      startOf bytes after.cwd = startOf bytes between.cwd) {path : Path} (leads : disk.Leads path root)
    (top : disk.view root = some Node.emptyDir) (present : after.isDir path = true) :
    after.Leads path (moveWorking place new root) := by
  obtain ⟨final, leadsAfter, topAfter⟩ := (isDir_iff after path).mp present
  obtain ⟨checked, left, way⟩ := leads
  obtain ⟨_, spare, wayAfter⟩ := leadsAfter
  have went := hidden.start path.bytes
  obtain ⟨above, name, rfl, rfl, entry⟩ := hidden.named
  have started := way_start _ _ _ _ top way
  have startBetween := (hidden.renamed.moved _ hidden.vacant (by simp [started])).trans started
  rw [← went] at startBetween
  have gone : after.view (above ++ [name]) ≠ some Node.emptyDir := by
    rw [Ne, directories, hidden.renamed.gone ?_]
    · simp
    · intro same
      have vacant := hidden.vacant
      rw [← same] at vacant
      exact hidden.renamed.held vacant
  have same : final = moveWorking (above ++ [name]) (above ++ [name ++ Utf8.ofString settings.hiddenSuffix]) root := by
    rw [starting, start path.bytes startBetween, went] at wayAfter
    exact way_moved plain later gone ⟨above, name, _, rfl, rfl⟩ _ _ _ _ _ _ _ top topAfter way wayAfter
  rw [← same]
  exact ⟨checked, spare, wayAfter⟩

end

end InkProject.Compiler
