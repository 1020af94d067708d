import InkProject.Files.Create
import InkProject.Proofs.Disk.Written
import InkProject.Proofs.Text.Decoding
set_option autoImplicit false

namespace InkProject.Files

open Disk

def byteMark : Bytes := [0xEF, 0xBB, 0xBF]

def unmarked (bytes : Bytes) : Bytes := if byteMark <+: bytes then bytes.drop byteMark.length else bytes

def IsText (bytes : Bytes) : Prop := ∃ text, Utf8.encode text = bytes

section

variable {bytes : Bytes} {text : List Char}

theorem encode_mark (text : List Char) : Utf8.encode (mark :: text) = byteMark ++ Utf8.encode text := rfl

theorem unmarked_mark (bytes : Bytes) : unmarked (byteMark ++ bytes) = bytes := by
  rw [unmarked, if_pos (List.prefix_append _ _), List.drop_left]

theorem unmarked_bare (bare : ¬ byteMark <+: bytes) : unmarked bytes = bytes := if_neg bare

theorem head_mark (leads : byteMark <+: Utf8.encode text) : text.head? = some mark := by
  obtain ⟨more, same⟩ := leads
  have read := congrArg Utf8.pieces same
  rw [Utf8.pieces_encode, show byteMark = String.utf8EncodeChar mark from rfl, (Utf8.encodeChar_spelled mark).pieces,
    Char.ofNat_toNat] at read
  obtain ⟨first, rest, rfl, head, _⟩ := List.map_eq_cons_iff.mp read.symm
  cases head
  rfl

theorem marked_mark (text : List Char) : marked (mark :: text) = Utf8.encode (mark :: text) := by simp [marked]

theorem exists_marked (text : List Char) : ∃ rest, marked text = Utf8.encode (mark :: rest) := ⟨_, rfl⟩

theorem marked_eq (text : List Char) : marked text = byteMark ++ unmarked (Utf8.encode text) := by
  by_cases leads : text.head? = some mark
  · obtain ⟨rest, rfl⟩ := List.head?_eq_some_iff.mp leads
    rw [marked_mark, encode_mark, unmarked_mark]
  · rw [marked, if_neg leads, encode_mark, unmarked_bare (mt head_mark leads)]

end

section

variable {disk after : Disk} {target template : Path} {bytes : Bytes} {text : List Char} {created : Created}
  {events : List FileEvent}

theorem template?_held (holds : disk.Holds template bytes) : template? disk template =
    match Utf8.decode? bytes with
    | none => .error (.templateNotText template)
    | some text => .ok (some text) := by
  rw [template?, holds.isFile, holds.read]
  rfl

theorem template?_text (holds : disk.Holds template (Utf8.encode text)) : template? disk template = .ok (some text) := by
  rw [template?_held holds, (Utf8.decode?_eq_some _ text).mpr rfl]

theorem template?_broken (holds : disk.Holds template bytes) (broken : ¬ IsText bytes) :
    template? disk template = .error (.templateNotText template) := by
  have unread : Utf8.decode? bytes = none := by
    rw [Option.eq_none_iff_forall_ne_some]
    exact fun text read => broken ⟨text, (Utf8.decode?_eq_some bytes text).mp read⟩
  rw [template?_held holds, unread]

theorem template?_missing (missing : ∀ bytes, ¬ disk.Holds template bytes) : template? disk template = .ok none := by
  have absent : disk.isFile template = false := by
    refine Bool.eq_false_iff.mpr fun file => ?_
    obtain ⟨bytes, holds⟩ := exists_holds file
    exact missing bytes holds
  rw [template?, absent]
  rfl

def createEvents (target template : Path) (text : Option (List Char)) : List FileEvent :=
  (if text.isNone then [.templateMissing template] else []) ++ [.storyCreated target text.isSome]

theorem createFrom_written {text : Option (List Char)} (read : template? disk template = .ok text)
    (written : disk.write target (marked (text.getD [])) = .ok after) :
    createFrom target template disk = ⟨.ok ⟨target, text.isSome⟩, after, createEvents target template text⟩ := by
  rw [createFrom, read]
  dsimp only
  rw [written]
  rfl

theorem createFrom_eq_ok (done : createFrom target template disk = ⟨.ok created, after, events⟩) :
    ∃ text, template? disk template = .ok text ∧ disk.write target (marked (text.getD [])) = .ok after ∧
      created = ⟨target, text.isSome⟩ := by
  rw [createFrom] at done
  cases read : template? disk template with
  | error error =>
    rw [read] at done
    cases done
  | ok text =>
    rw [read] at done
    dsimp only at done
    cases written : disk.write target (marked (text.getD [])) with
    | error error =>
      rw [written] at done
      cases done
    | ok disk =>
      rw [written] at done
      cases done
      exact ⟨text, rfl, written, rfl⟩

end

-- What becomes of a target where a file or nothing was before.
structure Normalised (disk : Disk) (target template : Path) : Prop where
  text : ∀ bytes after, disk.Holds template bytes → IsText bytes → disk.FileOrNothing target →
    disk.write target (byteMark ++ unmarked bytes) = .ok after →
    createFrom target template disk = ⟨.ok ⟨target, true⟩, after, [.storyCreated target true]⟩ ∧
      after.Holds target (byteMark ++ unmarked bytes)
  broken : ∀ bytes, disk.Holds template bytes → ¬ IsText bytes →
    createFrom target template disk = ⟨.error (.templateNotText template), disk, []⟩
  missing : ∀ after, (∀ bytes, ¬ disk.Holds template bytes) → disk.FileOrNothing target →
    disk.write target byteMark = .ok after →
    createFrom target template disk =
        ⟨.ok ⟨target, false⟩, after, [.templateMissing template, .storyCreated target false]⟩ ∧
      after.Holds target byteMark
  alike : ∀ other bytes, IsText bytes → ¬ byteMark <+: bytes → disk.Holds template bytes →
    disk.Holds other (byteMark ++ bytes) → createFrom target template disk = createFrom target other disk
  again : ∀ created after events, createFrom target template disk = ⟨.ok created, after, events⟩ →
    disk.FileOrNothing target → ∃ bytes, after.Holds target bytes ∧
      ∀ next copied last notes, createFrom next target after = ⟨.ok copied, last, notes⟩ → after.FileOrNothing next →
        copied = ⟨next, true⟩ ∧ last.Holds next bytes
  itself : ∀ created after events copied last notes, createFrom target template disk = ⟨.ok created, after, events⟩ →
    disk.FileOrNothing target → createFrom target target after = ⟨.ok copied, last, notes⟩ →
    ∃ bytes, after.Holds target bytes ∧ last.Holds target bytes

theorem createFrom_again {disk after : Disk} {target template : Path} {created : Created} {events : List FileEvent}
    (done : createFrom target template disk = ⟨.ok created, after, events⟩) (before : disk.FileOrNothing target) :
    ∃ bytes, after.Holds target bytes ∧
      ∀ next copied last notes, createFrom next target after = ⟨.ok copied, last, notes⟩ → after.FileOrNothing next →
        copied = ⟨next, true⟩ ∧ last.Holds next bytes := by
  obtain ⟨text, _, written, _⟩ := createFrom_eq_ok done
  have holds := write_holds before written
  obtain ⟨rest, whole⟩ := exists_marked (text.getD [])
  rw [whole] at holds
  refine ⟨_, holds, fun next copied last notes copying free => ?_⟩
  obtain ⟨read, reads, copies, rfl⟩ := createFrom_eq_ok copying
  rw [template?_text holds] at reads
  cases reads
  rw [Option.getD_some, marked_mark] at copies
  exact ⟨rfl, write_holds free copies⟩

theorem createFrom_normalised (disk : Disk) (target template : Path) : Normalised disk target template where
  text bytes after holds isText before written := by
    obtain ⟨text, rfl⟩ := isText
    refine ⟨?_, write_holds before written⟩
    rw [← marked_eq] at written
    exact createFrom_written (template?_text holds) written
  broken bytes holds broken := by
    rw [createFrom, template?_broken holds broken]
  missing after missing before written :=
    ⟨createFrom_written (template?_missing missing) written, write_holds before written⟩
  alike other bytes isText bare holds marks := by
    obtain ⟨text, rfl⟩ := isText
    rw [← encode_mark] at marks
    have same : marked text = marked (mark :: text) := by
      rw [marked_eq, marked_eq, encode_mark, unmarked_mark, unmarked_bare bare]
    rw [createFrom, createFrom, template?_text holds, template?_text marks]
    dsimp only [Option.getD_some]
    rw [same]
    rfl
  again created after events done before := createFrom_again done before
  itself created after events copied last notes done before copying := by
    obtain ⟨bytes, holds, copies⟩ := createFrom_again done before
    exact ⟨bytes, holds, (copies target copied last notes copying holds.fileOrNothing).2⟩

-- Of two marks one is the text's own, and the file with both is made from itself through a link.
example :
    let disk : Disk := ⟨.cons (Utf8.ofString "new") (.link (Utf8.ofString "story"))
      (.cons (Utf8.ofString "template") (.file (byteMark ++ byteMark ++ [113]) false) .nil), []⟩
    let first := createFrom (Path.ofString "/new") (Path.ofString "/template") disk
    let second := createFrom (Path.ofString "/story") (Path.ofString "/new") first.disk
    (first.disk.read (Path.ofString "/story"), second.disk.read (Path.ofString "/new")) =
      (.ok (byteMark ++ byteMark ++ [113]), .ok (byteMark ++ byteMark ++ [113])) := by decide +kernel

end InkProject.Files
