import InkProject.Proofs.Disk.Grown
import InkProject.Proofs.Files.Fresh
/- Files that are made one after the other get a path that led to nothing, so none of them
   takes the place of another or of what was there before. -/
set_option autoImplicit false

namespace InkProject.Files

open Disk

namespace Task

def name : Task → Nat → Path
  | .state directory stem _ => numbered directory stem stateExtension
  | .story directory _ => numbered directory storyStem storyExtension

def free : Task → Disk → Path
  | .state directory stem _, disk => Files.free disk directory stem stateExtension
  | .story directory _, disk => Files.free disk directory storyStem storyExtension

def ready : Task → Disk → Except FileError Disk
  | .state directory _ _, disk => match disk.makeDirs directory with
    | (_, .error error) => .error (.io directory error)
    | (made, .ok ()) => .ok made
  | .story _ _, disk => .ok disk

def content : Task → Disk → Except FileError Bytes
  | .state _ _ json, _ => .ok (Utf8.ofString json)
  | .story _ template, disk => (fun text => marked (text.getD [])) <$> template? disk template

variable {disk moment : Disk} {task : Task}

theorem free_first (task : Task) (disk : Disk) : ∃ number, First disk task.name number ∧ task.free disk = task.name number := by
  cases task with
  | state directory stem json => exact Files.free_first state_plain disk directory stem
  | story directory template => exact Files.free_first story_plain disk directory storyStem

theorem free_vacant (task : Task) (disk : Disk) : disk.exists? (task.free disk) = false := by
  obtain ⟨number, first, same⟩ := task.free_first disk
  rw [same]
  exact first.vacant

theorem ready_grown (ready : task.ready disk = .ok moment) : Grown disk moment := by
  cases task with
  | state directory stem json =>
    have grown := makeDirs_grown disk directory
    rw [Task.ready] at ready
    split at ready
    · cases ready
    · rename_i made done
      cases ready
      rwa [done] at grown
  | story directory template =>
    cases ready
    exact .refl disk

end Task

-- A task that succeeds is one write, to the free name; one that fails writes nothing.
inductive Ran (task : Task) (disk : Disk) : Except FileError Path → Disk → Prop where
  | made {moment after : Disk} {content : Bytes} (ready : task.ready disk = .ok moment)
      (contained : task.content disk = .ok content) (written : moment.write (task.free moment) content = .ok after) :
      Ran task disk (.ok (task.free moment)) after
  | failed {error : FileError} {after : Disk} (grown : Grown disk after) : Ran task disk (.error error) after

section

variable {disk last later : Disk} {call : Call} {tasks : List Task} {path : Path}

theorem state_ran (directory : Path) (stem json : String) (disk : Disk) : Ran (.state directory stem json) disk
    (Task.run (.state directory stem json) disk).1 (Task.run (.state directory stem json) disk).2 := by
  have grown := makeDirs_grown disk directory
  have ready : (Task.state directory stem json).ready disk = match disk.makeDirs directory with
    | (_, .error error) => .error (.io directory error)
    | (made, .ok ()) => .ok made := rfl
  rw [Task.run, saveState]
  rcases made : disk.makeDirs directory with ⟨moment, error | ⟨⟩⟩
  · rw [made] at grown
    exact .failed grown
  · rw [made] at grown ready
    dsimp only
    cases written : moment.write (Files.free moment directory stem stateExtension) (Utf8.ofString json) with
    | error error => exact .failed grown
    | ok after => exact .made ready rfl written

theorem story_ran (directory template : Path) (disk : Disk) : Ran (.story directory template) disk
    (Task.run (.story directory template) disk).1 (Task.run (.story directory template) disk).2 := by
  rw [Task.run, createStory, createFrom]
  cases read : template? disk template with
  | error error => exact .failed (.refl disk)
  | ok text =>
    dsimp only
    cases written : disk.write (Files.free disk directory storyStem storyExtension) (marked (text.getD [])) with
    | error error => exact .failed (.refl disk)
    | ok after => exact .made rfl (by rw [Task.content, read]; rfl) written

theorem task_ran (task : Task) (disk : Disk) : Ran task disk (task.run disk).1 (task.run disk).2 := by
  cases task with
  | state directory stem json => exact state_ran directory stem json disk
  | story directory template => exact story_ran directory template disk

end

structure Made (call : Call) (written : Path) (last moment : Disk) (number : Nat) (content : Bytes) (place : Place) :
    Prop where
  ready : call.task.ready call.before = .ok moment
  first : First moment call.task.name number
  path : written = call.task.name number
  contained : call.task.content call.before = .ok content
  done : moment.write written content = .ok call.after
  fresh : moment.view place = none
  held : last.locate true written = .ok (place, .file content false)

section

variable {disk last later moment : Disk} {call : Call} {tasks : List Task} {path : Path} {number : Nat} {content : Bytes}
  {place : Place}

theorem Made.grown (made : Made call path last moment number content place) (grown : Grown last later) :
    Made call path later moment number content place :=
  { made with held := grown.locate rfl made.held }

theorem Made.view (made : Made call path last moment number content place) : last.view place ≠ none := by
  have held := ((locate_leaf last path place _ rfl).mp made.held).2
  simp [held]

theorem run_grown (task : Task) (disk : Disk) : Grown disk (task.run disk).2 := by
  have ran := task_ran task disk
  generalize task.run disk = outcome at ran ⊢
  obtain ⟨result, after⟩ := outcome
  cases ran with
  | failed grown => exact grown
  | made ready _ written =>
    obtain ⟨_, _, grown, _⟩ := write_fresh (task.free_vacant _) written
    exact (Task.ready_grown ready).trans grown

theorem call_made (ran : Ran call.task call.before call.result call.after) (done : call.result = .ok path) :
    ∃ moment number content place, Made call path call.after moment number content place := by
  rw [done] at ran
  cases ran with
  | made ready contained written =>
    rename_i moment content
    obtain ⟨number, first, same⟩ := call.task.free_first moment
    obtain ⟨place, fresh, _, held⟩ := write_fresh (call.task.free_vacant _) written
    exact ⟨moment, number, content, place, ready, first, same, contained, written, fresh, held⟩

theorem left_grown (tasks : List Task) (disk : Disk) : Grown disk (left tasks disk) := by
  induction tasks generalizing disk with
  | nil => exact .refl disk
  | cons task tasks ih => exact (run_grown task disk).trans (ih _)

theorem calls_ran (member : call ∈ calls tasks disk) :
    Grown disk call.before ∧ Ran call.task call.before call.result call.after ∧ Grown call.after (left tasks disk) := by
  induction tasks generalizing disk with
  | nil => cases member
  | cons task tasks ih =>
    rcases List.mem_cons.mp member with rfl | later
    · exact ⟨.refl disk, task_ran task disk, left_grown tasks _⟩
    · obtain ⟨before, ran, after⟩ := ih later
      exact ⟨(run_grown task disk).trans before, ran, after⟩

theorem calls_made (member : call ∈ calls tasks disk) (done : call.result = .ok path) :
    ∃ moment number content place, Made call path (left tasks disk) moment number content place := by
  obtain ⟨_, ran, grown⟩ := calls_ran member
  obtain ⟨moment, number, content, place, made⟩ := call_made ran done
  exact ⟨moment, number, content, place, made.grown grown⟩

theorem calls_apart (tasks : List Task) (disk : Disk) : (calls tasks disk).Pairwise fun first second =>
    ∀ path other, first.result = .ok path → second.result = .ok other → ∀ x y m n,
      (left tasks disk).locate true path = .ok (x, m) → (left tasks disk).locate true other = .ok (y, n) → x ≠ y := by
  induction tasks generalizing disk with
  | nil => exact .nil
  | cons task tasks ih =>
    refine List.pairwise_cons.mpr ⟨?_, ih (task.run disk).2⟩
    intro second member path other doneFirst doneSecond x y m n atFirst atSecond
    obtain ⟨before, ran, after⟩ := calls_ran member
    obtain ⟨_, _, _, place, made⟩ := @call_made (task.call disk) path (task_ran task disk) doneFirst
    obtain ⟨moment, _, _, fresh, more⟩ := calls_made member doneSecond
    have there := (made.grown (left_grown tasks _)).held
    rw [show left tasks _ = left (task :: tasks) disk from rfl, atFirst] at there
    have here := more.held
    rw [show left tasks _ = left (task :: tasks) disk from rfl, atSecond] at here
    cases there
    cases here
    rintro rfl
    exact (before.trans (Task.ready_grown more.ready)).held made.view more.fresh

end

-- How a call finds its path. Where fewer names exist than there are numbers of 32 bits, it is
-- found before the counter comes to its end.
structure Searched (call : Call) (moment : Disk) (number : Nat) : Prop where
  first : First moment call.task.name number
  chosen : call.task.free moment = call.task.name number
  counted : {taken | moment.exists? (call.task.name taken) = true}.encard < greatestNumber →
    counted moment call.task.name = some (call.task.name number)

structure Unclobbered (first : Disk) (tasks : List Task) (last : Disk) : Prop where
  searched : ∀ call ∈ calls tasks first, ∀ moment, call.task.ready call.before = .ok moment →
    ∃ number, Searched call moment number
  made : ∀ call ∈ calls tasks first, ∀ path, call.result = .ok path → ∃ moment number content place,
    Made call path last moment number content place ∧ last.read path = .ok content
  apart : (calls tasks first).Pairwise fun call other => ∀ path new, call.result = .ok path → other.result = .ok new →
    ∀ x y m n, last.locate true path = .ok (x, m) → last.locate true new = .ok (y, n) → x ≠ y
  files : ∀ place content executable, first.top.at? place = some (.file content executable) →
    last.top.at? place = some (.file content executable)
  paths : ∀ path place content executable, first.locate true path = .ok (place, .file content executable) →
    last.locate true path = .ok (place, .file content executable)

theorem calls_unclobbered (disk : Disk) (tasks : List Task) : Unclobbered disk tasks (left tasks disk) := by
  have grown := left_grown tasks disk
  constructor
  case searched =>
    intro call member moment ready
    obtain ⟨number, first, chosen⟩ := call.task.free_first moment
    exact ⟨number, first, chosen, fun few => first.counted (first.small few)⟩
  case made =>
    intro call member path done
    obtain ⟨moment, number, content, place, made⟩ := calls_made member done
    exact ⟨moment, number, content, place, made, read_located made.held⟩
  case apart => exact calls_apart tasks disk
  case files => exact fun place content executable => grown.file
  case paths => exact fun path place content executable => grown.locate rfl

-- A gap among the names, before it a link that leads nowhere: the link is written through, not taken for a name in use.
example :
    let disk : Disk := ⟨.cons (Utf8.ofString "New Ink 1.ink") (.link (Utf8.ofString "gone"))
      (.cons (Utf8.ofString "New Ink 2.ink") (.file [] false) (.cons (Utf8.ofString "New Ink.ink") (.file [] false) .nil)), []⟩
    (calls [.story (Path.ofString "/") (Path.ofString "none"), .story (Path.ofString "/") (Path.ofString "gone")] disk).map
      Call.result = [.ok (Path.ofString "/New Ink 1.ink"), .ok (Path.ofString "/New Ink 3.ink")] := by decide +kernel

end InkProject.Files
