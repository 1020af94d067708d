import InkProject.Command.Run
import InkProject.Proofs.Compiler.Crossing
/- The source of a story between the command line and the compiler. It is looked for once the
   compiler was located, by the path that it had before: where nothing on the way was moved it
   is handed over as it was, and otherwise it is missing. -/
set_option autoImplicit false

namespace InkProject

namespace Compiler

section

variable {source : Path} {disk : Disk}

theorem compile_missing (launch : Launcher) (executable output : Path) (missing : disk.isFile source = false) :
    (compile launch executable source output disk).result = .error (.missingSource source) := by
  simp only [compile, missing, Bool.not_false, if_true]

theorem compile_launched (launch : Launcher) (executable output : Path) (file : disk.isFile source = true) :
    (compile launch executable source output disk).disk = (launch disk executable (arguments source output)).1 ∧
      ∀ path, (compile launch executable source output disk).result ≠ .error (.missingSource path) := by
  simp only [compile, file, Bool.not_true, Bool.false_eq_true, if_false]
  rcases launch disk executable (arguments source output) with ⟨after, error | finish⟩
  · exact ⟨rfl, by simp⟩
  · exact ⟨rfl, by simp⟩

end

end Compiler

namespace Command

open Compiler Disk Project

section

variable {project source : Path} {config : Config} {root : Option Path} {name : Option String} {disk : Disk}
  {located : Located}

theorem settingsFor_single {settings : Settings} (made : settingsFor project config root name = .ok settings) :
    '/' ∉ settings.hiddenSuffix.toList ∧ '/' ∉ settings.pendingSuffix.toList := by
  have hidden : '/' ∉ defaultHiddenSuffix.toList := by decide
  have pending : '/' ∉ defaultPendingSuffix.toList := by decide
  have made := mapError_eq_ok made
  simp only [Settings.forPlatform] at made
  split at made
  · cases made
    exact ⟨hidden, pending⟩
  · cases made

theorem locateFor_located (done : (locateFor project config root name disk).result = .ok located) :
    ∃ settings, settingsFor project config root name = .ok settings ∧
      (Compiler.locate .sorted settings disk).result = .ok located ∧
      (locateFor project config root name disk).disk = (Compiler.locate .sorted settings disk).disk := by
  rw [locateFor] at done ⊢
  cases made : settingsFor project config root name with
  | error failure =>
    rw [made] at done
    cases done
  | ok settings =>
    rw [made] at done
    exact ⟨settings, rfl, mapError_eq_ok done, rfl⟩

def outputFor (source : Path) (output : Option Path) : Path :=
  output.getD (source.withExtension (Utf8.ofString Files.stateExtension))

theorem runCompile_compiles (launch : Launcher) (source : Path) (output : Option Path)
    (done : (locateFor project config none none disk).result = .ok located) :
    let compiled := compile launch located.path source (outputFor source output) (locateFor project config none none disk).disk
    (runCompile launch project config source output disk).1.disk = compiled.disk ∧
      ∀ error, (runCompile launch project config source output disk).1.result = .error (.compiling error) ↔
        compiled.result = .error error := by
  intro compiled
  rw [runCompile]
  simp only [done]
  rw [← outputFor]
  cases outcome : compiled.result with
  | error error => exact ⟨rfl, fun other => by simp⟩
  | ok report =>
    dsimp only
    by_cases failed : (!report.succeeded) = true
    · rw [if_pos failed]
      exact ⟨rfl, fun other => by simp⟩
    · rw [if_neg failed]
      refine ⟨rfl, fun other => ?_⟩
      simp only [readStory]
      cases compiled.disk.readText (outputFor source output) with
      | error error => simp [Except.mapError, Except.map]
      | ok json => simp [Except.mapError, Except.map]

structure HandedOver (launch : Launcher) (source output : Path) (located : Located) (disk between : Disk)
    (step : Step Answer) : Prop where
  file : between.isFile source = true
  content : between.read source = disk.read source
  run : step.disk = (launch between located.path (arguments source output)).1
  found : ∀ path, step.result ≠ .error (.compiling (.missingSource path))

theorem source_handed_over (formed : disk.WellFormed) (file : disk.isFile source = true)
    (done : (locateFor project config none none disk).result = .ok located) (launch : Launcher) (output : Option Path) :
    (¬ Sometime (Crosses source) disk located.relocations →
      HandedOver launch source (outputFor source output) located disk (locateFor project config none none disk).disk
        (runCompile launch project config source output disk).1) ∧
    (¬ Sometime Replaces disk located.relocations → Sometime (Crosses source) disk located.relocations →
      (runCompile launch project config source output disk).1.result = .error (.compiling (.missingSource source))) := by
  obtain ⟨settings, made, ran, same⟩ := locateFor_located done
  obtain ⟨hidden, pending⟩ := settingsFor_single made
  obtain ⟨relocated, loses⟩ := locate_relocated source formed hidden pending ran
  obtain ⟨disks, failures⟩ := runCompile_compiles launch source output done
  rw [← same] at relocated loses
  constructor
  · intro clear
    obtain ⟨found, content⟩ := relocated.keeps_file file clear
    obtain ⟨launched, started⟩ := compile_launched launch located.path (outputFor source output) found
    exact ⟨found, content, disks.trans launched, fun path failed => started path ((failures _).mp failed)⟩
  · intro fresh crosses
    have missing : (locateFor project config none none disk).disk.isFile source = false := by
      refine Bool.eq_false_iff.mpr fun found => ?_
      obtain ⟨final, _, _, leads, _⟩ := (isFile_iff _ source).mp found
      exact loses fresh crosses final leads
    exact (failures _).mpr (compile_missing launch _ _ missing)

end

def storyDisk : Disk :=
  let entries : Entries := .cons (Utf8.ofString "inklecate") (.file [2] true)
    (.cons (Utf8.ofString "story.ink") (.file [1] false) .nil)
  ⟨.cons (Utf8.ofString "Assets") (.dir (.cons (Utf8.ofString "Ink") (.dir entries)
    (.cons (Utf8.ofString "story.ink") (.file [3] false) .nil))) .nil, []⟩

def hiddenCompiler : Located :=
  ⟨Path.ofString "/Assets/Ink~/inklecate", ⟨⟨"inklecate", by decide⟩, Path.ofString "/Assets/Ink~", true⟩, .absent,
    [⟨.hideDirectory, Path.ofString "/Assets/Ink", Path.ofString "/Assets/Ink~"⟩]⟩

theorem storyDisk_located : storyDisk.WellFormed ∧ (locateFor here {} none none storyDisk).result = .ok hiddenCompiler :=
  ⟨wellFormed_of_names (by decide) (by decide), by decide +kernel⟩

theorem storyDisk_fresh : ¬ Sometime Replaces storyDisk hiddenCompiler.relocations := by
  rintro (⟨_, place, ends, held⟩ | ⟨_, _, never⟩)
  · have there : storyDisk.EndsAt (Path.ofString "/Assets/Ink~") [Utf8.ofString "Assets", Utf8.ofString "Ink~"] :=
      ⟨_, _, _, rfl, by decide, rfl⟩
    rw [endsAt_unique ends there] at held
    exact held (by decide)
  · exact never

theorem outer_story_handed_over :
    let source := Path.ofString "Assets/story.ink"
    (storyDisk.WellFormed ∧ storyDisk.isFile source = true ∧
      (locateFor here {} none none storyDisk).result = .ok hiddenCompiler) ∧
      ∀ launch, HandedOver launch source (outputFor source none) hiddenCompiler storyDisk
        (locateFor here {} none none storyDisk).disk (runCompile launch here {} source none storyDisk).1 := by
  intro source
  obtain ⟨formed, done⟩ := storyDisk_located
  have file : storyDisk.isFile source = true := by decide
  refine ⟨⟨formed, file, done⟩, fun launch => (source_handed_over formed file done launch none).1 fun crosses => ?_⟩
  have missing := (source_handed_over formed file done launch none).2 storyDisk_fresh crosses
  obtain ⟨_, failures⟩ := runCompile_compiles launch source none done
  have found : (locateFor here {} none none storyDisk).disk.isFile source = true := by decide +kernel
  exact (compile_launched launch _ _ found).2 source ((failures _).mp missing)

-- The story next to the compiler goes along with the directory, and its path does not.
theorem inner_story_missing :
    let source := Path.ofString "Assets/Ink/story.ink"
    (storyDisk.WellFormed ∧ storyDisk.isFile source = true ∧
      (locateFor here {} none none storyDisk).result = .ok hiddenCompiler) ∧
      ∀ launch, (runCompile launch here {} source none storyDisk).1.result = .error (.compiling (.missingSource source)) := by
  intro source
  obtain ⟨formed, done⟩ := storyDisk_located
  refine ⟨⟨formed, by decide, done⟩, fun launch => ?_⟩
  have lost : (locateFor here {} none none storyDisk).disk.isFile source = false := by decide +kernel
  exact ((runCompile_compiles launch source none done).2 _).mpr (compile_missing launch _ _ lost)

end Command

end InkProject
