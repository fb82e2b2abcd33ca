/-
Where annotations stand. The commands of a file are those on the pieces between its line feeds, in
their order, each with the number of line feeds before it plus one for its line. A carriage return
at the end of a piece is trimmed with the other blanks, and an empty piece at the end holds no
command; so the way in which lines end shows neither in the commands nor in their places.
-/
import ApiNotes.Source
import ApiNotes.Proofs.Annotation.Reader
import Mathlib.Data.List.Forall2
import Mathlib.Logic.Relation

namespace ApiNotes

open Text

/-! ## The command on one line -/

namespace Command

/-- A line is read by what trimming leaves of it. -/
theorem ofLine?_congr {sentinel : String} {line line' : List Char} (h : trim line = trim line') :
    ofLine? sentinel (.ofList line) = ofLine? sentinel (.ofList line') := by
  simp only [ofLine?, String.toList_ofList, h]

theorem ofLine?_nil (sentinel : String) : ofLine? sentinel (.ofList []) = none := by
  refine Option.eq_none_iff_forall_ne_some.2 fun c hc => ?_
  obtain ⟨rest, hline, -, htokens⟩ := ofLine?_eq_some_iff.1 hc
  rw [(List.append_eq_nil_iff.1 hline.symm).2] at htokens
  cases htokens

/-- A carriage return at the end of a line makes no difference. -/
theorem ofLine?_return (sentinel : String) (line : List Char) :
    ofLine? sentinel (.ofList (line ++ ['\r'])) = ofLine? sentinel (.ofList line) :=
  ofLine?_congr (trim_concat_blank (by decide) line)

theorem ofLine?_dropReturn (sentinel : String) (line : List Char) :
    ofLine? sentinel (.ofList (dropReturn line.reverse).reverse) =
      ofLine? sentinel (.ofList line) := by
  rcases List.eq_nil_or_concat line with rfl | ⟨line, c, rfl⟩
  · rfl
  · by_cases hc : c = '\r'
    · subst hc
      simpa [dropReturn] using (ofLine?_return sentinel line).symm
    · simp [dropReturn, hc]

end Command

/-! ## The commands on a list of lines -/

/-- One command stands in the file on an earlier line than another one. -/
def StandsBefore (file : String) (a b : Command) : Prop :=
  ∃ j k, a.location = some ⟨file, j⟩ ∧ b.location = some ⟨file, k⟩ ∧ j < k

/-- The commands on lines of which the first one has number `start`. -/
def readLines (sentinel file : String) (start : Nat) (lines : List (List Char)) : List Command :=
  (locate file start (lines.map String.ofList)).filterMap fun (location, text) =>
    (Command.ofLine? sentinel text).map fun c => { c with location := some location }

section

variable {sentinel file : String} {start : Nat}

theorem readLines_cons (line : List Char) (rest : List (List Char)) :
    readLines sentinel file start (line :: rest) =
      ((Command.ofLine? sentinel (.ofList line)).map
          fun c => { c with location := some ⟨file, start⟩ }).toList ++
        readLines sentinel file (start + 1) rest := by
  rw [readLines, List.map_cons, locate, List.filterMap_cons]
  dsimp only
  cases Command.ofLine? sentinel (.ofList line) with
  | none => rfl
  | some c => rfl

/-- The commands on lines are those of the single lines, with the numbers of these. -/
theorem mem_readLines_iff {lines : List (List Char)} {c : Command} :
    c ∈ readLines sentinel file start lines ↔ ∃ n line c₀, lines[n]? = some line ∧
      Command.ofLine? sentinel (.ofList line) = some c₀ ∧
      c = { c₀ with location := some ⟨file, start + n⟩ } := by
  induction lines generalizing start with
  | nil => simp [readLines, locate]
  | cons line rest ih =>
    rw [readLines_cons, List.mem_append, ih]
    constructor
    · rintro (h | ⟨n, line', c₀, hn, hc, rfl⟩)
      · obtain ⟨c₀, hc, rfl⟩ := Option.map_eq_some_iff.1 (Option.mem_toList.1 h)
        exact ⟨0, line, c₀, rfl, hc, rfl⟩
      · exact ⟨n + 1, line', c₀, hn, hc, by simp [Nat.add_comm, Nat.add_left_comm]⟩
    · rintro ⟨n, line', c₀, hn, hc, rfl⟩
      cases n with
      | zero =>
        cases hn
        exact .inl (by simp [hc])
      | succ n => exact .inr ⟨n, line', c₀, hn, hc, by simp [Nat.add_comm, Nat.add_left_comm]⟩

theorem pairwise_readLines (lines : List (List Char)) :
    (readLines sentinel file start lines).Pairwise (StandsBefore file) := by
  induction lines generalizing start with
  | nil => exact .nil
  | cons line rest ih =>
    rw [readLines_cons]
    refine List.pairwise_append.2 ⟨?_, ih, ?_⟩
    · cases Command.ofLine? sentinel (.ofList line) <;> simp
    · intro a ha b hb
      obtain ⟨a₀, -, rfl⟩ := Option.map_eq_some_iff.1 (Option.mem_toList.1 ha)
      obtain ⟨n, -, b₀, -, -, rfl⟩ := mem_readLines_iff.1 hb
      exact ⟨start, start + 1 + n, rfl, rfl, by omega⟩

end

/-! ## Line ends -/

namespace Text

theorem linesAfter_append {piece : List Char} (h : '\n' ∉ piece) (line rest : List Char) :
    linesAfter line (piece ++ rest) = linesAfter (piece.reverse ++ line) rest := by
  induction piece generalizing line with
  | nil => rfl
  | cons c piece ih =>
    simp only [List.mem_cons, not_or] at h
    rw [List.cons_append, linesAfter, if_neg (Ne.symm h.1), ih h.2, List.reverse_cons,
      List.append_assoc, List.singleton_append]

/-- The text with a carriage return before each line feed. -/
def withReturns (text : List Char) : List Char :=
  text.flatMap fun c => if c = '\n' then ['\r', '\n'] else [c]

theorem withReturns_of_not_mem {text : List Char} (h : '\n' ∉ text) : withReturns text = text := by
  induction text with
  | nil => rfl
  | cons c text ih =>
    simp only [List.mem_cons, not_or] at h
    rw [withReturns, List.flatMap_cons, if_neg (Ne.symm h.1), ← withReturns, ih h.2,
      List.singleton_append]

theorem withReturns_append_cons {piece : List Char} (h : '\n' ∉ piece) (rest : List Char) :
    withReturns (piece ++ '\n' :: rest) = piece ++ ['\r'] ++ '\n' :: withReturns rest := by
  rw [withReturns, List.flatMap_append, List.flatMap_cons, ← withReturns, ← withReturns,
    withReturns_of_not_mem h]
  simp

/-- The two changes of line ends: a carriage return before each line feed, and a line feed at the
end of the text. -/
inductive ChangesLineEnds : String → String → Prop
  | returns (text : String) : ChangesLineEnds text (.ofList (withReturns text.toList))
  | final (text : String) : ChangesLineEnds text (text ++ "\n")

end Text

section

variable {sentinel file : String} {start : Nat}

/-- Lines can be cut at line feeds alone, since carriage returns and an empty line at the end do
not matter to a reader. -/
theorem readLines_linesAfter (text : List Char) :
    readLines sentinel file start (linesAfter [] text) =
      readLines sentinel file start (text.splitOn '\n') := by
  induction text using pieces_induction '\n' generalizing start with
  | last piece h =>
    have hlines := linesAfter_append h [] []
    rw [List.append_nil, List.append_nil, linesAfter] at hlines
    rw [hlines, List.splitOn_eq_singleton h]
    cases piece with
    | nil =>
      rw [readLines_cons, Command.ofLine?_nil]
      rfl
    | cons c piece => simp
  | more piece rest h ih =>
    rw [linesAfter_append h, List.append_nil, linesAfter, if_pos rfl,
      List.splitOn_append_cons_self_of_not_mem h, readLines_cons, readLines_cons, ih,
      Command.ofLine?_dropReturn]

theorem readLines_withReturns (text : List Char) :
    readLines sentinel file start ((withReturns text).splitOn '\n') =
      readLines sentinel file start (text.splitOn '\n') := by
  induction text using pieces_induction '\n' generalizing start with
  | last piece h => rw [withReturns_of_not_mem h]
  | more piece rest h ih =>
    have hreturn : '\n' ∉ piece ++ ['\r'] := by simpa using h
    rw [withReturns_append_cons h, List.splitOn_append_cons_self_of_not_mem hreturn,
      List.splitOn_append_cons_self_of_not_mem h, readLines_cons, readLines_cons, ih,
      Command.ofLine?_return]

theorem readLines_concat_lineFeed (text : List Char) :
    readLines sentinel file start ((text ++ ['\n']).splitOn '\n') =
      readLines sentinel file start (text.splitOn '\n') := by
  induction text using pieces_induction '\n' generalizing start with
  | last piece h =>
    rw [List.splitOn_append_cons_self_of_not_mem h, List.splitOn_eq_singleton h,
      readLines_cons, readLines_cons, List.splitOn_nil, readLines_cons, Command.ofLine?_nil]
    rfl
  | more piece rest h ih =>
    rw [List.append_assoc, List.cons_append, List.splitOn_append_cons_self_of_not_mem h,
      List.splitOn_append_cons_self_of_not_mem h, readLines_cons, readLines_cons, ih]

end

/-! ## Source files -/

namespace SourceFile

variable {sentinel : String}

theorem commands_eq_readLines (source : SourceFile) :
    source.commands sentinel =
      readLines sentinel source.path 1 (source.content.toList.splitOn '\n') :=
  readLines_linesAfter source.content.toList

/-- The commands are those that can be read between the line feeds of a file. Each carries the file
and the number of line feeds before it plus one, and these numbers increase strictly. -/
structure Located (sentinel : String) (source : SourceFile) (cs : List Command) : Prop where
  ordered : cs.Pairwise (StandsBefore source.path)
  mem_iff : ∀ c, c ∈ cs ↔ ∃ n line c₀, IsPiece '\n' source.content.toList n line ∧
    Command.ofLine? sentinel (.ofList line) = some c₀ ∧
    c = { c₀ with location := some ⟨source.path, n + 1⟩ }

theorem located_commands (source : SourceFile) :
    Located sentinel source (source.commands sentinel) := by
  rw [commands_eq_readLines]
  refine ⟨pairwise_readLines _, fun c => ?_⟩
  simp only [mem_readLines_iff, getElem?_splitOn_iff, Nat.add_comm 1]

/-- Only line ends are changed between two files. -/
def SameLines (a b : SourceFile) : Prop :=
  a.path = b.path ∧ Relation.EqvGen ChangesLineEnds a.content b.content

theorem commands_eq_of_changesLineEnds (path : String) {content content' : String}
    (h : Relation.EqvGen ChangesLineEnds content content') :
    commands sentinel ⟨path, content⟩ = commands sentinel ⟨path, content'⟩ := by
  induction h with
  | rel content _ h =>
    rw [commands_eq_readLines, commands_eq_readLines]
    cases h with
    | returns => simpa using (readLines_withReturns content.toList).symm
    | final => simpa using (readLines_concat_lineFeed content.toList).symm
  | refl => rfl
  | symm _ _ _ ih => exact ih.symm
  | trans _ _ _ _ _ ih ih' => exact ih.trans ih'

theorem SameLines.commands_eq {a b : SourceFile} (h : SameLines a b) :
    a.commands sentinel = b.commands sentinel := by
  obtain ⟨path, content⟩ := a
  obtain ⟨_, content'⟩ := b
  obtain ⟨rfl, hends⟩ := h
  exact commands_eq_of_changesLineEnds path hends

/-- The commands of several files follow each other in the order of the files, and those of a file
in the order of its lines: one command for each line on which one can be read, placed at this file
and this line. If carriage returns are added before all line feeds of files, line feeds are added at
their ends, or either is taken back, the commands and their places stay the same. -/
theorem commandsOf_located (sentinel : String) (sources : List SourceFile) :
    (∃ parts, commandsOf sentinel sources = parts.flatten ∧
      List.Forall₂ (Located sentinel) sources parts) ∧
    ∀ sources', List.Forall₂ SameLines sources sources' →
      commandsOf sentinel sources' = commandsOf sentinel sources := by
  constructor
  · refine ⟨sources.map (commands sentinel), List.flatMap_def .., ?_⟩
    rw [List.forall₂_map_right_iff]
    exact List.forall₂_same.2 fun source _ => located_commands source
  · intro sources' h
    induction h with
    | nil => rfl
    | cons hfile _ ih =>
      rw [commandsOf, List.flatMap_cons, ← commandsOf, ih, ← hfile.commands_eq]
      rfl

/-- The last carriage return is on no line end, and does no harm either. -/
example : (commandsOf "#" [⟨"a.rs", "\n# title Pets\r\n\n# version 1\r"⟩, ⟨"b.rs", "# api"⟩]).map
    (·.location) = [some ⟨"a.rs", 2⟩, some ⟨"a.rs", 4⟩, some ⟨"b.rs", 1⟩] := by
  rfl

end SourceFile

end ApiNotes
