import InkProject.Proofs.Compiler.Output
set_option autoImplicit false

namespace InkProject.Compiler

open Blank

def markedLines (kind : MessageKind) (text : List Char) : Nat :=
  (endedLines text).countP fun line => kind.mark.isPrefixOf (trim line)

namespace Finish

def marked (kind : MessageKind) (finish : Finish) : Nat :=
  markedLines kind (Utf8.lossy finish.stdout) + markedLines kind (Utf8.lossy finish.stderr)

def Clean (finish : Finish) : Prop := finish.exitCode = some 0 ∧
  ∀ line ∈ endedLines (Utf8.lossy finish.stdout) ++ endedLines (Utf8.lossy finish.stderr),
    ¬ MessageKind.error.mark <+: trim line

end Finish

section

variable {launch : Launcher} {executable source output : Path} {disk ran : Disk} {finish : Finish} {report : Report}
  {line : List Char} {lines : List (List Char)} {messages : List Message} {other : List String}

theorem compile_finished (file : disk.isFile source = true)
    (launched : launch disk executable (arguments source output) = (ran, .ok finish)) :
    compile launch executable source output disk = ⟨.ok (.ofFinish output finish), ran,
      [.running executable source output, (Report.ofFinish output finish).event source]⟩ := by
  simp only [compile, file, Bool.not_true, Bool.false_eq_true, if_false, launched]
  rfl

theorem compile_eq_ok : (compile launch executable source output disk).result = .ok report ↔
    disk.isFile source = true ∧ ∃ ran finish, launch disk executable (arguments source output) = (ran, .ok finish) ∧
      report = .ofFinish output finish := by
  constructor
  · intro done
    rw [compile] at done
    by_cases file : disk.isFile source = true
    · rw [if_neg (by simp [file])] at done
      rcases launched : launch disk executable (arguments source output) with ⟨ran, error | finish⟩
      · rw [launched] at done
        cases done
      · rw [launched] at done
        cases done
        exact ⟨file, ran, finish, rfl, rfl⟩
    · rw [if_pos (by simp [file])] at done
      cases done
  · intro holds
    obtain ⟨file, ran, finish, launched, rfl⟩ := holds
    rw [compile_finished file launched]

theorem parse_streams (stdout stderr : Bytes) : Output.parse (Utf8.lossy (stdout ++ 0x0A :: stderr)) =
    (Output.parse (Utf8.lossy stdout)).append (Output.parse (Utf8.lossy stderr)) := by
  have newline : Char.ofNat (0x0A : UInt8).toNat = '\n' := rfl
  rw [Utf8.lossy_append (by decide), newline, parse_append]

theorem mark_prefix_iff (kind other : MessageKind) (rest : List Char) : kind.mark <+: other.mark ++ rest ↔ kind = other := by
  constructor
  · intro starts
    cases kind <;> cases other <;> simp [MessageKind.mark] at starts ⊢
  · rintro rfl
    exact List.prefix_append _ _

theorem Shared.count (shared : Shared lines messages other) (kind : MessageKind) :
    (messages.filter (·.kind = kind)).length = lines.countP fun line => kind.mark.isPrefixOf line := by
  induction shared with
  | nil => rfl
  | @message line said _ _ _ tells _ ih =>
    obtain ⟨rest, rfl, _⟩ := tells
    by_cases same : said.kind = kind
    · have starts : kind.mark.isPrefixOf (said.kind.mark ++ rest) = true :=
        List.isPrefixOf_iff_prefix.mpr ((mark_prefix_iff _ _ _).mpr same.symm)
      rw [List.filter_cons_of_pos (by simp [same]), List.countP_cons_of_pos (by exact starts), List.length_cons, ih]
    · have starts : ¬ kind.mark.isPrefixOf (said.kind.mark ++ rest) = true := fun starts =>
        same ((mark_prefix_iff _ _ _).mp (List.isPrefixOf_iff_prefix.mp starts)).symm
      rw [List.filter_cons_of_neg (by simp [same]), List.countP_cons_of_neg (by exact starts), ih]
  | @other line _ _ _ unmarked _ ih =>
    have starts : ¬ kind.mark.isPrefixOf line = true := fun starts =>
      unmarked kind (List.isPrefixOf_iff_prefix.mp starts)
    rw [List.countP_cons_of_neg (by exact starts), ih]

theorem parse_count (kind : MessageKind) (text : List Char) :
    ((Output.parse text).messages.filter (·.kind = kind)).length = markedLines kind text := by
  have shared : Shared (spokenLines text) (Output.parse text).messages (Output.parse text).other :=
    (parse_eq_iff text _ _).mp rfl
  have filled (line : List Char) : kind.mark.isPrefixOf line = true → line ≠ [] := by
    rintro starts rfl
    exact mark_filled kind (List.prefix_nil.mp (List.isPrefixOf_iff_prefix.mp starts))
  rw [shared.count kind, spokenLines, List.countP_filter, List.countP_map, markedLines]
  refine List.countP_congr fun line _ => ?_
  simp only [Function.comp_apply, Bool.and_eq_true, decide_eq_true_eq]
  exact and_iff_left_of_imp (filled _)

theorem ofFinish_count (kind : MessageKind) (output : Path) (finish : Finish) :
    ((Report.ofFinish output finish).ofKind kind).length = finish.marked kind := by
  rw [Report.ofKind, Report.ofFinish, Output.append]
  simp only [List.filter_append, List.length_append, parse_count]
  rfl

theorem ofFinish_succeeded (output : Path) (finish : Finish) :
    (Report.ofFinish output finish).succeeded = true ↔ finish.Clean := by
  have quiet : (Report.ofFinish output finish).errors.isEmpty = true ↔ finish.marked .error = 0 := by
    rw [List.isEmpty_iff_length_eq_zero, Report.errors, ofFinish_count]
  rw [Report.succeeded, Bool.and_eq_true, decide_eq_true_eq, quiet, Finish.marked, Nat.add_eq_zero_iff, markedLines, markedLines,
    List.countP_eq_zero, List.countP_eq_zero, Finish.Clean, List.forall_mem_append]
  simp only [List.isPrefixOf_iff_prefix]
  rfl

end

structure Lossless : Prop where
  appended : ∀ a b, Output.parse (a ++ '\n' :: b) = (Output.parse a).append (Output.parse b)
  shared : ∀ text messages other, Output.parse text = ⟨messages, other⟩ ↔ Shared (spokenLines text) messages other
  written : ∀ text lines, Output.ofLines lines = Output.parse text → Output.parse (writtenLines lines) = Output.parse text
  reported : ∀ launch executable source output disk report,
    (compile launch executable source output disk).result = .ok report ↔ disk.isFile source = true ∧ ∃ ran finish,
      launch disk executable (arguments source output) = (ran, .ok finish) ∧ report.outputPath = output ∧
        report.exitCode = finish.exitCode ∧
        Output.parse (Utf8.lossy (finish.stdout ++ 0x0A :: finish.stderr)) = ⟨report.messages, report.otherOutput⟩

theorem output_lossless : Lossless where
  appended := parse_append
  shared := parse_eq_iff
  written _ _ := parse_written
  reported launch executable source output disk report := by
    rw [compile_eq_ok]
    refine and_congr_right fun _ => exists_congr fun ran => exists_congr fun finish => and_congr_right fun _ => ?_
    rw [parse_streams, Report.ofFinish]
    cases report
    rw [Report.mk.injEq, eq_comm (b := Output.mk _ _), Output.mk.injEq]

-- What a run that ended in some way is reported and noted as.
structure Closed (executable source output : Path) (finish : Finish) (outcome : Outcome CompileError Report CompileEvent) :
    Prop where
  reported : ∃ report, outcome.result = .ok report ∧ (report.succeeded = true ↔ finish.Clean)
  clean : finish.Clean → outcome.events.map CompileEvent.line = [(CompileEvent.running executable source output).line,
    ⟨.info, "Compiled story", [("source", .text source.display), ("warnings", .integer (finish.marked .warning))]⟩]
  failed : ¬ finish.Clean → outcome.events.map CompileEvent.line = [(CompileEvent.running executable source output).line,
    ⟨.warn, "Story compilation failed", [("source", .text source.display), ("exit_code", .text (exitCodeText finish.exitCode)),
      ("errors", .integer (finish.marked .error))]⟩]

theorem compile_closed {launch : Launcher} {executable source output : Path} {disk ran : Disk} {finish : Finish}
    (file : disk.isFile source = true)
    (launched : launch disk executable (arguments source output) = (ran, .ok finish)) :
    Closed executable source output finish (compile launch executable source output disk) := by
  have succeeded := ofFinish_succeeded output finish
  rw [compile_finished file launched]
  constructor
  case reported => exact ⟨_, rfl, succeeded⟩
  case clean =>
    intro clean
    rw [Report.event, if_pos (succeeded.mpr clean), Report.warnings, ofFinish_count]
    rfl
  case failed =>
    intro failed
    rw [Report.event, if_neg (mt succeeded.mp failed), Report.errors, ofFinish_count]
    rfl

def quietFinish : Finish := ⟨some 0, Utf8.ofString "WARNING: loose end\ndone", Utf8.ofString "\tERROR: no such knot\r\n"⟩

def sourceDisk : Disk := ⟨.cons (Utf8.ofString "s.ink") (.file [] false) .nil, []⟩

theorem quiet_error_reported : sourceDisk.isFile (.ofString "/s.ink") = true ∧
    Closed (.ofString "/ink") (.ofString "/s.ink") (.ofString "/s.json") quietFinish
      (compile (fun disk _ _ => (disk, .ok quietFinish)) (.ofString "/ink") (.ofString "/s.ink") (.ofString "/s.json")
        sourceDisk) ∧ ¬ quietFinish.Clean ∧ quietFinish.marked .error = 1 := by
  have file : sourceDisk.isFile (.ofString "/s.ink") = true := by decide +kernel
  have one : quietFinish.marked .error = 1 := by decide +kernel
  have unclean : ¬ quietFinish.Clean := by
    rw [← ofFinish_succeeded (.ofString "/s.json")]
    decide +kernel
  exact ⟨file, compile_closed file rfl, unclean, one⟩

end InkProject.Compiler
