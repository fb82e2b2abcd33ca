/-
What lines can say. A command that is read off a line has texts without spaces for its API, its
keyword and its arguments, and its last one does not end with a blank; and the line that
`Command.render` writes for such a command is read as the command. So reading and rendering are
inverse to each other, whatever the sentinel is, as long as it does not start with a blank: trimmed
lines never start with one, and under such a sentinel nothing is read at all.
-/
import ApiNotes.Annotation.Reader
import ApiNotes.Proofs.Text.Pieces
import ApiNotes.Proofs.Text.Trim

namespace ApiNotes

open Text

/-! ## Keywords -/

theorem Kind.keyword_ofKeyword (keyword : String) : (Kind.ofKeyword keyword).keyword = keyword := by
  unfold ofKeyword
  cases h : known.find? (·.keyword == keyword) with
  | none => rfl
  | some kind => simpa using List.find?_some h

/-! ## Tokens -/

/-- A text that can stand between spaces. -/
def IsToken (token : List Char) : Prop :=
  token ≠ [] ∧ ' ' ∉ token

theorem spaced_nil : spaced [] = [] :=
  rfl

theorem spaced_space (text : List Char) : spaced (' ' :: text) = spaced text := by
  have hsplit : (' ' :: text).splitOn ' ' = [] :: text.splitOn ' ' :=
    List.splitOn_append_cons_self_of_not_mem (List.not_mem_nil : ' ' ∉ []) text
  simp [spaced, hsplit]

theorem spaced_token {token : List Char} (h : IsToken token) :
    spaced token = [String.ofList token] := by
  simp [spaced, List.splitOn_eq_singleton h.2, h.1]

theorem spaced_token_append {token : List Char} (h : IsToken token) (text : List Char) :
    spaced (token ++ ' ' :: text) = String.ofList token :: spaced text := by
  simp [spaced, List.splitOn_append_cons_self_of_not_mem h.2, h.1]

/-- A text is empty, starts with a space, or starts with a token, which is the whole text or is
followed by a space. -/
theorem spaced_induction {motive : List Char → Prop} (nil : motive [])
    (space : ∀ text, motive text → motive (' ' :: text))
    (token : ∀ token, IsToken token → motive token)
    (append : ∀ token text, IsToken token → motive text → motive (token ++ ' ' :: text)) :
    ∀ text, motive text := by
  intro text
  induction text using pieces_induction ' ' with
  | last piece h =>
    cases piece with
    | nil => exact nil
    | cons c rest => exact token (c :: rest) ⟨by simp, h⟩
  | more piece rest h ih =>
    cases piece with
    | nil => exact space rest ih
    | cons c piece => exact append (c :: piece) rest ⟨by simp, h⟩ ih

theorem isToken_of_mem_spaced (text : List Char) : ∀ t ∈ spaced text, IsToken t.toList := by
  induction text using spaced_induction with
  | nil => simp [spaced_nil]
  | space text ih => rwa [spaced_space]
  | token token h => simpa [spaced_token h] using h
  | append token text h ih => simpa [spaced_token_append h] using ⟨h, ih⟩

/-- A text that ends with no blank ends with its last token. -/
theorem endsInked_getLast?_spaced {text : List Char} (hne : text ≠ []) (h : EndsInked text) :
    ∃ t, (spaced text).getLast? = some t ∧ EndsInked t.toList := by
  induction text using spaced_induction with
  | nil => exact absurd rfl hne
  | space text ih =>
    have htext : text ≠ [] := by rintro rfl; exact not_endsInked_space [] h
    rw [spaced_space]
    exact ih htext (EndsInked.of_append [' '] h)
  | token token ht => exact ⟨String.ofList token, by simp [spaced_token ht], by simpa using h⟩
  | append token text ht ih =>
    rw [List.append_cons] at h
    have htext : text ≠ [] := by rintro rfl; exact not_endsInked_space token (by simpa using h)
    obtain ⟨t, hlast, hend⟩ := ih htext (h.of_append _)
    exact ⟨t, by simp [spaced_token_append ht, List.getLast?_cons, hlast], hend⟩

/-- Tokens with a space in front of each are read back. -/
theorem spaced_tokens {first : List Char} (hfirst : IsToken first) {tokens : List String}
    (h : ∀ t ∈ tokens, IsToken t.toList) :
    spaced (first ++ tokens.flatMap (' ' :: ·.toList)) = String.ofList first :: tokens := by
  induction tokens generalizing first with
  | nil => simp [spaced_token hfirst]
  | cons t rest ih =>
    obtain ⟨ht, hrest⟩ := List.forall_mem_cons.1 h
    rw [List.flatMap_cons, List.cons_append, spaced_token_append hfirst, ih ht hrest,
      String.ofList_toList]

/-! ## Legible commands -/

namespace Command

/-- The keyword and the arguments of a command. -/
def tokens (c : Command) : List String :=
  c.kind.keyword :: c.args

/-- A command that a line can spell. It has no place, the texts of its API, keyword and arguments
are tokens, and the last of them does not end with a blank. -/
structure IsLegible (c : Command) : Prop where
  location : c.location = none
  api : ∀ name, c.api = some name → IsToken name.toList
  keyword : ∃ keyword : String, c.kind = .ofKeyword keyword ∧ IsToken keyword.toList
  args : ∀ a ∈ c.args, IsToken a.toList
  last : ∀ t, c.tokens.getLast? = some t → EndsInked t.toList

variable {c : Command}

theorem IsLegible.tokens (h : c.IsLegible) : ∀ t ∈ c.tokens, IsToken t.toList := by
  obtain ⟨keyword, hk, hkeyword⟩ := h.keyword
  refine List.forall_mem_cons.2 ⟨?_, h.args⟩
  rw [hk, Kind.keyword_ofKeyword]
  exact hkeyword

/-! ## Reading -/

/-- What a list of tokens spells is legible if the tokens are those of a line. -/
theorem isLegible_of_ofTokens? {tokens : List String} (htokens : ∀ t ∈ tokens, IsToken t.toList)
    (hlast : ∀ t, tokens.getLast? = some t → EndsInked t.toList)
    (h : ofTokens? tokens = some c) : c.IsLegible := by
  unfold ofTokens? at h
  split at h
  · cases h
  · rename_i first rest
    obtain ⟨hfirst, hrest⟩ := List.forall_mem_cons.1 htokens
    split at h
    · rename_i name hname
      split at h
      · cases h
      · rename_i keyword args
        cases h
        obtain ⟨hkeyword, hargs⟩ := List.forall_mem_cons.1 hrest
        refine ⟨rfl, ?_, ⟨keyword, rfl, hkeyword⟩, hargs, ?_⟩
        · intro api hapi
          split at hapi
          · cases hapi
          · rename_i hne
            cases hapi
            have hspace : ' ' ∉ name := fun hm => hfirst.2 (hname ▸ List.mem_cons_of_mem _ hm)
            exact ⟨by simpa using hne, by simpa using hspace⟩
        · rw [Command.tokens, Kind.keyword_ofKeyword]
          simpa using hlast
    · cases h
      refine ⟨rfl, nofun, ⟨first, rfl, hfirst⟩, hrest, ?_⟩
      rw [Command.tokens, Kind.keyword_ofKeyword]
      exact hlast

theorem ofLine?_eq_some_iff {sentinel line : String} :
    ofLine? sentinel line = some c ↔ ∃ rest, trim line.toList = sentinel.toList ++ rest ∧
      joinsWords sentinel.toList rest = false ∧ ofTokens? (spaced (trim rest)) = some c := by
  unfold ofLine?
  cases h : sentinel.toList.isPrefixOf? (trim line.toList) with
  | none =>
    have hno : ∀ rest, trim line.toList ≠ sentinel.toList ++ rest := by
      intro rest heq
      rw [List.isPrefixOf?_eq_some_iff_append_eq.2 heq.symm] at h
      cases h
    simp [hno]
  | some rest =>
    have heq := List.isPrefixOf?_eq_some_iff_append_eq.1 h
    cases hj : joinsWords sentinel.toList rest with
    | true => simp [← heq, hj]
    | false => simp [← heq, hj]

/-- Only legible commands are read, and only under a sentinel that does not start with a blank. -/
theorem isLegible_of_ofLine? {sentinel line : String} (h : ofLine? sentinel line = some c) :
    StartsInked sentinel.toList ∧ c.IsLegible := by
  obtain ⟨rest, hline, -, hc⟩ := ofLine?_eq_some_iff.1 h
  constructor
  · intro x hx
    refine startsInked_trim line.toList x ?_
    rw [hline, List.head?_append, hx, Option.some_or]
  · refine isLegible_of_ofTokens? (isToken_of_mem_spaced _) ?_ hc
    by_cases hnil : trim rest = []
    · simp [hnil, spaced_nil]
    · obtain ⟨last, hlast, hend⟩ := endsInked_getLast?_spaced hnil (endsInked_trim rest)
      rw [hlast]
      rintro t ⟨⟩
      exact hend

/-! ## Rendering -/

theorem toList_render (sentinel : String) (c : Command) :
    (c.render sentinel).toList = sentinel.toList ++
      ((':' :: (c.api.getD "").toList) ++ c.tokens.flatMap (' ' :: ·.toList)) := by
  simp [render, Command.tokens, String.toList_join, List.flatMap_map]

/-- What a legible command is rendered as ends with no blank. -/
theorem IsLegible.endsInked_render (h : c.IsLegible) (lead : List Char) :
    EndsInked (lead ++ c.tokens.flatMap (' ' :: ·.toList)) := by
  obtain ⟨front, last, hsplit⟩ : ∃ front last, c.tokens = front ++ [last] :=
    ⟨_, _, (List.dropLast_concat_getLast (List.cons_ne_nil _ _)).symm⟩
  have hlast : EndsInked last.toList := h.last last (by simp [hsplit])
  have hne : last.toList ≠ [] := (h.tokens last (by simp [hsplit])).1
  have hend := hlast.append hne (lead ++ front.flatMap (' ' :: ·.toList) ++ [' '])
  simpa [hsplit] using hend

theorem ofTokens?_colon (name : List Char) (keyword : String) (args : List String) :
    ofTokens? (String.ofList (':' :: name) :: keyword :: args) =
      some ⟨.ofKeyword keyword, args, if name.isEmpty then none else some (.ofList name),
        none⟩ := by
  simp [ofTokens?]

theorem IsLegible.ofKeyword_keyword (h : c.IsLegible) : Kind.ofKeyword c.kind.keyword = c.kind := by
  obtain ⟨keyword, hk, -⟩ := h.keyword
  rw [hk, Kind.keyword_ofKeyword]

/-- The name of an API is not empty, so no API is told from a name. -/
theorem IsLegible.api_eq (h : c.IsLegible) :
    (if (c.api.getD "").toList.isEmpty then none else some (.ofList (c.api.getD "").toList)) =
      c.api := by
  cases hapi : c.api with
  | none => rfl
  | some name =>
    have hne : name.toList ≠ [] := (h.api name hapi).1
    simpa using hne

/-- A legible command is read off the line that it is rendered as. -/
theorem ofLine?_render_of_isLegible {sentinel : String} (hs : StartsInked sentinel.toList)
    (h : c.IsLegible) : ofLine? sentinel (c.render sentinel) = some c := by
  have hname : IsToken (':' :: (c.api.getD "").toList) := by
    refine ⟨by simp, ?_⟩
    cases hapi : c.api with
    | none => simp
    | some name => simpa using (h.api name hapi).2
  have hspaced := spaced_tokens hname h.tokens
  generalize hlead : ':' :: (c.api.getD "").toList = lead at hname hspaced
  have hrest : StartsInked (lead ++ c.tokens.flatMap (' ' :: ·.toList)) := by
    rw [← hlead, List.cons_append, startsInked_cons]
    decide
  have hline : StartsInked (c.render sentinel).toList := by
    rw [toList_render, hlead]
    exact hs.append hrest
  have hend : EndsInked (c.render sentinel).toList := by
    rw [toList_render, hlead, ← List.append_assoc]
    exact h.endsInked_render _
  refine ofLine?_eq_some_iff.2 ⟨lead ++ c.tokens.flatMap (' ' :: ·.toList), ?_, ?_, ?_⟩
  · rw [trim_eq_self hline hend, toList_render, hlead]
  · -- the colon is no part of a word
    have hcolon : isWordChar ':' = false := by decide
    simp [joinsWords, ← hlead, hcolon]
  · rw [trim_eq_self hrest (h.endsInked_render lead), hspaced, ← hlead, tokens, ofTokens?_colon,
      h.ofKeyword_keyword, h.api_eq, ← h.location]

/-- Reading and rendering are inverse to each other. Whatever is read off a line is read off the
line that it is rendered as, and the commands that can be read under a sentinel are the legible
ones, unless the sentinel starts with a blank. -/
theorem render_reads (sentinel : String) :
    (∀ line c, ofLine? sentinel line = some c →
      ofLine? sentinel (c.render sentinel) = some c) ∧
    (StartsInked sentinel.toList → ∀ c : Command, c.IsLegible →
      ofLine? sentinel (c.render sentinel) = some c) ∧
    ∀ c, (∃ line, ofLine? sentinel line = some c) ↔
      StartsInked sentinel.toList ∧ c.IsLegible := by
  refine ⟨fun line c h => ?_, fun hs c hc => ofLine?_render_of_isLegible hs hc, fun c => ⟨?_, ?_⟩⟩
  · obtain ⟨hs, hc⟩ := isLegible_of_ofLine? h
    exact ofLine?_render_of_isLegible hs hc
  · rintro ⟨line, h⟩
    exact isLegible_of_ofLine? h
  · rintro ⟨hs, hc⟩
    exact ⟨_, ofLine?_render_of_isLegible hs hc⟩

/-- Only spaces separate, so a keyword may hold a tab and start with a colon. -/
example : ofLine? "#" "	#:pets :a	b  c " =
    some ⟨.unknown ":a	b", ["c"], some "pets", none⟩ := by
  rfl

end Command

end ApiNotes
