/-
The grammar of annotations. The commands of one API give a document exactly if they are a sequence
of clauses, each command has a legal number of arguments and names a type where it has to, each
`end` closes the handler that was opened, and a `url` stands before the variables of servers.

A run is first compared with `Nested`, which reads the commands one by one and remembers the id of
the open handler; `Nested` is then compared with sequences of clauses.
-/
import ApiNotes.Proofs.Api.Step

namespace ApiNotes

/-! ## Legal commands -/

/-- Whether a command has a legal number of arguments. -/
def Command.HasLegalArity (c : Command) : Prop :=
  match c.kind with
  | .version | .filename | .beginHandler | .method => c.args.length = 1
  | .route => c.args.length = 2
  | .urlVariable | .query => 2 ≤ c.args.length
  | .title | .description | .code | .summary | .handlerDescription | .tags | .body
  | .response => 1 ≤ c.args.length
  | .endHandler => c.args.length ≤ 1
  | .url => c.args.length = 1 ∨ c.args.length = 2 ∧ c.api = none
  | .unknown _ => True

/-- The token of a command that has to name a type: the one of a body or a parameter, and that of
a response if it is braced. -/
def Command.typeToken? (c : Command) : Option String :=
  match c.kind with
  | .body => c.args[0]?
  | .query => c.args[1]?
  | .code | .response => c.args[1]?.filter fun token => (braced? token).isSome
  | _ => none

/-- Whether something is left of a token without its braces and list marks. -/
def NamesType (token : String) : Prop :=
  withoutListMarks ((braced? token).getD token).toList ≠ []

/-- Whether the token of a command that has to name a type does so. -/
def Command.NamesItsType (c : Command) : Prop :=
  ∀ token, c.typeToken? = some token → NamesType token

theorem typeOfToken_isOk_iff (kind : Kind) {token : String} :
    (∃ t, typeOfToken kind token = .ok t) ↔ NamesType token := by
  simp only [typeOfToken, NamesType, List.isEmpty_iff]
  split
  · rename_i h; simp [h]
  · rename_i h; simp [h]

theorem responseOf_isOk_iff (c : Command) (type : Option String) :
    (∃ r t, c.responseOf type = .ok (r, t)) ↔
      ∀ token, type = some token → (braced? token).isSome = true → NamesType token := by
  cases type with
  | none => simp [Command.responseOf]
  | some token =>
    simp only [Option.some.injEq, forall_eq']
    rw [← typeOfToken_isOk_iff c.kind]
    unfold Command.responseOf
    cases hb : (braced? token).isSome with
    | false => simp [hb]
    | true =>
      simp only [hb, if_true, forall_const]
      cases typeOfToken c.kind token <;> simp

/-! ## Commands that are accepted -/

theorem addVariable_isSome_iff {name : String} {x : ServerVariable} {servers : List Server} :
    (∃ servers', addVariable name x servers = some servers') ↔ servers ≠ [] := by
  fun_induction addVariable name x servers with
  | case1 => simp
  | case2 s => simp
  | case3 s rest hne ih =>
    have hrest : rest ≠ [] := fun h => hne h
    obtain ⟨servers', h⟩ := ih.2 hrest
    simp [h]

theorem addVariable_ne_nil {name : String} {x : ServerVariable} {servers servers' : List Server}
    (h : addVariable name x servers = some servers') : servers' ≠ [] := by
  fun_cases addVariable name x servers with
  | case1 => cases h
  | case2 s => simp only [addVariable, Option.some.injEq] at h; simp [← h]
  | case3 s rest hne =>
    rw [addVariable] at h
    · obtain ⟨rest', -, rfl⟩ := Option.map_eq_some_iff.1 h
      simp
    · exact hne

theorem exists_two_of_two_le_length {l : List String} (h : 2 ≤ l.length) :
    ∃ a b rest, l = a :: b :: rest := by
  rcases l with _ | ⟨a, _ | ⟨b, rest⟩⟩
  · simp at h
  · simp at h
  · exact ⟨a, b, rest, rfl⟩

/-- A command outside of handlers is accepted exactly if it is legal and, for a variable, there is
a server. -/
theorem Draft.describe_isOk_iff {d : Draft} {c : Command} (hk : c.kind.isTopLevel = true) :
    (∃ d', d.describe c = .ok d') ↔ c.HasLegalArity ∧ c.NamesItsType ∧
      (c.kind = .urlVariable → d.model.document.servers ≠ []) := by
  simp only [describe_eq_ok_iff]
  constructor
  · rintro ⟨_, ⟨hc, ha⟩ | ⟨hc, ha⟩ | ⟨_, hc, ha⟩ | ⟨_, hc, ha⟩ | ⟨_, hc, ha | ⟨hapi, _, ha⟩⟩ |
      ⟨_, _, _, _, hc, ha, hs⟩ | ⟨_, _, _, _, hc, ha, hr⟩ | ⟨_, _, hc, ha⟩⟩
    case urlVariable =>
      have hne := addVariable_isSome_iff.1 ⟨_, hs⟩
      simp [Command.HasLegalArity, Command.NamesItsType, Command.typeToken?, hc, ha, hne]
    case code =>
      have hname := (responseOf_isOk_iff _ _).1 ⟨_, _, hr⟩
      simpa [Command.HasLegalArity, Command.NamesItsType, Command.typeToken?, hc, ha,
        List.head?_eq_getElem?] using hname
    all_goals
      simp_all [Command.HasLegalArity, Command.NamesItsType, Command.typeToken?,
        Nat.succ_le_iff, List.length_pos_iff]
  · rintro ⟨harity, hname, hserver⟩
    unfold Command.HasLegalArity at harity
    unfold Command.NamesItsType Command.typeToken? at hname
    cases hc : c.kind <;> rw [hc] at hk harity hname <;> dsimp only at harity hname
    case title => exact ⟨_, .title hc (List.length_pos_iff.1 harity)⟩
    case description => exact ⟨_, .description hc (List.length_pos_iff.1 harity)⟩
    case version =>
      obtain ⟨version, ha⟩ := List.length_eq_one_iff.1 harity
      exact ⟨_, .version version hc ha⟩
    case filename =>
      obtain ⟨filename, ha⟩ := List.length_eq_one_iff.1 harity
      exact ⟨_, .filename filename hc ha⟩
    case url =>
      rcases harity with h | ⟨h, hapi⟩
      · obtain ⟨url, ha⟩ := List.length_eq_one_iff.1 h
        exact ⟨_, .url url hc (.inl ha)⟩
      · obtain ⟨api, url, ha⟩ := List.length_eq_two.1 h
        exact ⟨_, .url url hc (.inr ⟨hapi, api, ha⟩)⟩
    case urlVariable =>
      obtain ⟨name, value, rest, ha⟩ := exists_two_of_two_le_length harity
      obtain ⟨servers, hs⟩ := addVariable_isSome_iff.2 (hserver hc)
      exact ⟨_, .urlVariable name value rest servers hc ha hs⟩
    case code =>
      obtain ⟨code, rest, ha⟩ := List.exists_cons_of_length_pos harity
      obtain ⟨response, t, hr⟩ := (responseOf_isOk_iff c rest.head?).2
        (by simpa [ha, List.head?_eq_getElem?] using hname)
      exact ⟨_, .code code rest response t hc ha hr⟩
    case route =>
      obtain ⟨path, handler, ha⟩ := List.length_eq_two.1 harity
      exact ⟨_, .route path handler hc ha⟩
    all_goals cases hk

/-- A command inside a handler is accepted exactly if it is legal. -/
theorem Handler.describe_isOk_iff {h : Handler} {c : Command} (hk : c.kind.isHandlerField = true) :
    (∃ h' t, h.describe c = .ok (h', t)) ↔ c.HasLegalArity ∧ c.NamesItsType := by
  simp only [describe_eq_ok_iff]
  constructor
  · rintro ⟨_, _, ⟨_, hc, ha⟩ | ⟨hc, ha⟩ | ⟨hc, ha⟩ | ⟨hc, ha⟩ | ⟨_, _, _, hc, ha, ht⟩ |
      ⟨_, _, _, _, hc, ha, ht⟩ | ⟨_, hc, ha⟩ | ⟨_, _, _, _, _, hc, ha, hr⟩⟩
    case body | query =>
      have hname := (typeOfToken_isOk_iff _).1 ⟨_, ht⟩
      simp [Command.HasLegalArity, Command.NamesItsType, Command.typeToken?, hc, ha, hname]
    case response =>
      have hname := (responseOf_isOk_iff _ _).1 ⟨_, _, hr⟩
      simpa [Command.HasLegalArity, Command.NamesItsType, Command.typeToken?, hc, ha] using hname
    all_goals
      simp_all [Command.HasLegalArity, Command.NamesItsType, Command.typeToken?,
        Nat.succ_le_iff, List.length_pos_iff]
  · rintro ⟨harity, hname⟩
    unfold Command.HasLegalArity at harity
    unfold Command.NamesItsType Command.typeToken? at hname
    cases hc : c.kind <;> rw [hc] at hk harity hname <;> dsimp only at harity hname
    case method =>
      obtain ⟨method, ha⟩ := List.length_eq_one_iff.1 harity
      exact ⟨_, _, .method method hc ha⟩
    case summary => exact ⟨_, _, .summary hc (List.length_pos_iff.1 harity)⟩
    case handlerDescription => exact ⟨_, _, .description hc (List.length_pos_iff.1 harity)⟩
    case tags => exact ⟨_, _, .tags hc (List.length_pos_iff.1 harity)⟩
    case body =>
      obtain ⟨token, rest, ha⟩ := List.exists_cons_of_length_pos harity
      obtain ⟨t, ht⟩ := (typeOfToken_isOk_iff c.kind).2 (hname token (by simp [ha]))
      exact ⟨_, _, .body token rest t hc ha ht⟩
    case query =>
      obtain ⟨name, token, rest, ha⟩ := exists_two_of_two_le_length harity
      obtain ⟨t, ht⟩ := (typeOfToken_isOk_iff c.kind).2 (hname token (by simp [ha]))
      exact ⟨_, _, .query name token rest t hc ha ht⟩
    case response =>
      obtain ⟨code, rest, ha⟩ := List.exists_cons_of_length_pos harity
      cases rest with
      | nil => exact ⟨_, _, .bareResponse code hc ha⟩
      | cons token rest =>
        obtain ⟨response, t, hr⟩ := (responseOf_isOk_iff c (some token)).2
          (by simpa [ha] using hname)
        exact ⟨_, _, .response code token rest response t hc ha hr⟩
    all_goals cases hk

/-! ## Runs and nesting -/

/-- A sequence of commands with the nesting of handlers, read from a point where the handler of the
given id is open or none is. -/
inductive Nested : Option String → List Command → Prop
  | done : Nested none []
  | single {c : Command} {rest : List Command} : c.kind.isTopLevel = true → Nested none rest →
      Nested none (c :: rest)
  | opening {c : Command} {id : String} {rest : List Command} : c.kind = .beginHandler →
      c.args = [id] → Nested (some id) rest → Nested none (c :: rest)
  | field {c : Command} {id : String} {rest : List Command} : c.kind.isHandlerField = true →
      Nested (some id) rest → Nested (some id) (c :: rest)
  | closing {c : Command} {id : String} {rest : List Command} : c.kind = .endHandler →
      c.args = [] ∨ c.args = [id] → Nested none rest → Nested (some id) (c :: rest)

/-- Every server variable has a `url` before it, unless there was a server from the start. -/
def UrlsFirst (served : Prop) (cs : List Command) : Prop :=
  ∀ before c after, cs = before ++ c :: after → c.kind = .urlVariable →
    served ∨ ∃ u ∈ before, u.kind = .url

theorem urlsFirst_cons {served : Prop} {c : Command} {rest : List Command} :
    UrlsFirst served (c :: rest) ↔
      (c.kind = .urlVariable → served) ∧ UrlsFirst (served ∨ c.kind = .url) rest := by
  constructor
  · intro h
    refine ⟨fun hc => ?_, fun before x after hr hx => ?_⟩
    · simpa using h [] c rest rfl hc
    · rcases h (c :: before) x after (by rw [hr]; rfl) hx with hs | ⟨u, hu, huk⟩
      · exact .inl (.inl hs)
      · rcases List.mem_cons.1 hu with rfl | hu
        · exact .inl (.inr huk)
        · exact .inr ⟨u, hu, huk⟩
  · rintro ⟨hc, hrest⟩ before x after heq hx
    cases before with
    | nil =>
      cases heq
      exact .inl (hc hx)
    | cons b before =>
      cases heq
      rcases hrest before x after rfl hx with (hs | hu) | ⟨u, hu, huk⟩
      · exact .inl hs
      · exact .inr ⟨c, List.mem_cons_self .., hu⟩
      · exact .inr ⟨u, List.mem_cons_of_mem _ hu, huk⟩

namespace Draft

variable {d d' : Draft} {c : Command}

/-- There is a server after a step if there was one or the step adds one. -/
theorem Takes.served {w : List Warning} (h : d.Takes c d' w) :
    d'.model.document.servers ≠ [] ↔ d.model.document.servers ≠ [] ∨ c.kind = .url := by
  cases h with
  | opens id hc => simp [hc]
  | closes h hc => simp [hc, close]
  | details h h' t hc =>
    have hne : c.kind ≠ .url := fun he => by rw [he] at hc; cases hc
    simp [hne]
  | describes _ hc _ hd =>
    rcases describe_eq_ok_iff.1 hd with ⟨hc, _⟩ | ⟨hc, _⟩ | ⟨_, hc, _⟩ | ⟨_, hc, _⟩ |
      ⟨url, hc, _⟩ | ⟨name, value, _, servers, hc, _, hs⟩ | ⟨_, _, _, t, hc, _, _⟩ | ⟨_, _, hc, _⟩
    case url => simp [hc, addServer, editDocument]
    case urlVariable =>
      -- a variable needs a server and keeps it
      simp [hc, editDocument, addVariable_isSome_iff.1 ⟨_, hs⟩, addVariable_ne_nil hs]
    all_goals simp [hc, editDocument]

/-- What a step accepts is legal, and fits in front of what the draft accepts afterwards. -/
theorem Takes.legal {w : List Warning} (h : d.Takes c d' w) :
    c.HasLegalArity ∧ c.NamesItsType ∧
      (c.kind = .urlVariable → d.model.document.servers ≠ []) ∧
      ∀ rest, Nested (d'.current.map Handler.id) rest →
        Nested (d.current.map Handler.id) (c :: rest) := by
  cases h with
  | opens id hc ha hcur =>
    refine ⟨?_, ?_, by simp [hc], fun rest hn => ?_⟩
    · simp [Command.HasLegalArity, hc, ha]
    · simp [Command.NamesItsType, Command.typeToken?, hc]
    · rw [hcur]; exact .opening hc ha hn
  | closes h hc ha hcur =>
    refine ⟨?_, ?_, by simp [hc], fun rest hn => ?_⟩
    · rcases ha with ha | ha <;> simp [Command.HasLegalArity, hc, ha]
    · simp [Command.NamesItsType, Command.typeToken?, hc]
    · rw [hcur]; exact .closing hc ha hn
  | describes d' hc hcur hd =>
    obtain ⟨harity, hname, hserver⟩ := (describe_isOk_iff hc).1 ⟨_, hd⟩
    refine ⟨harity, hname, hserver, fun rest hn => ?_⟩
    rw [(describe_eq_ok_iff.1 hd).frame.2.1] at hn
    rw [hcur] at hn ⊢
    exact .single hc hn
  | details h h' t hc hcur hd =>
    obtain ⟨harity, hname⟩ := (Handler.describe_isOk_iff hc).1 ⟨_, _, hd⟩
    have hne : c.kind ≠ .urlVariable := fun hv => by rw [hv] at hc; cases hc
    refine ⟨harity, hname, fun hv => absurd hv hne, fun rest hn => ?_⟩
    rw [hcur]
    rw [Option.map_some, (Handler.describe_eq_ok_iff.1 hd).frame.1] at hn
    exact .field hc hn

/-- A legal command that stands in its place is accepted, and what follows it still fits. -/
theorem exists_takes {rest : List Command}
    (hn : Nested (d.current.map Handler.id) (c :: rest)) (harity : c.HasLegalArity)
    (hname : c.NamesItsType) (hserver : c.kind = .urlVariable → d.model.document.servers ≠ []) :
    ∃ d' w, d.Takes c d' w ∧ Nested (d'.current.map Handler.id) rest := by
  cases hcur : d.current with
  | none =>
    rw [hcur] at hn
    cases hn with
    | single hc hn =>
      obtain ⟨d', hd⟩ := (describe_isOk_iff hc).2 ⟨harity, hname, hserver⟩
      refine ⟨d', [], .describes d' hc hcur hd, ?_⟩
      rw [(describe_eq_ok_iff.1 hd).frame.2.1, hcur]
      exact hn
    | opening hc ha hn => exact ⟨_, _, .opens _ hc ha hcur, hn⟩
  | some h =>
    rw [hcur] at hn
    cases hn with
    | field hc hn =>
      obtain ⟨h', t, hd⟩ := (Handler.describe_isOk_iff hc).2 ⟨harity, hname⟩
      refine ⟨_, [], .details h h' t hc hcur hd, ?_⟩
      rw [Option.map_some, (Handler.describe_eq_ok_iff.1 hd).frame.1]
      exact hn
    | closing hc ha hn => exact ⟨_, _, .closes h hc ha hcur, hn⟩

/-- A run is accepted and leaves no handler open exactly if its commands are nested and legal. -/
theorem applyAll_isOk_iff (d : Draft) (cs : List Command)
    (hk : ∀ c ∈ cs, c.kind.isKnown = true) :
    (∃ d', d.applyAll cs = .ok d' ∧ d'.current = none) ↔
      Nested (d.current.map Handler.id) cs ∧
      (∀ c ∈ cs, c.HasLegalArity ∧ c.NamesItsType) ∧
      UrlsFirst (d.model.document.servers ≠ []) cs := by
  -- what the draft says about the rest is the id of its open handler and whether it has a server
  induction cs generalizing d with
  | nil =>
    constructor
    · rintro ⟨_, hd, hcur⟩
      cases hd
      refine ⟨by rw [hcur]; exact .done, by simp, fun before c after h => ?_⟩
      simp at h
    · rintro ⟨hn, -, -⟩
      refine ⟨d, rfl, ?_⟩
      cases hcur : d.current with
      | none => rfl
      | some h => rw [hcur] at hn; cases hn
  | cons c rest ih =>
    have hkc := hk c (List.mem_cons_self ..)
    have hkrest : ∀ c ∈ rest, c.kind.isKnown = true := fun x hx => hk x (List.mem_cons_of_mem _ hx)
    simp only [applyAll_cons_eq_ok_iff, urlsFirst_cons, List.forall_mem_cons]
    constructor
    · rintro ⟨d'', ⟨d', w, hs, hrun⟩, hcur⟩
      have ht := (step_eq_ok_iff hkc).1 hs
      obtain ⟨hn, hl, hu⟩ := (ih d' hkrest).1 ⟨d'', hrun, hcur⟩
      obtain ⟨harity, hname, hserver, hnest⟩ := ht.legal
      rw [ht.served] at hu
      exact ⟨hnest rest hn, ⟨⟨harity, hname⟩, hl⟩, hserver, hu⟩
    · rintro ⟨hn, ⟨⟨harity, hname⟩, hl⟩, hserver, hu⟩
      obtain ⟨d', w, ht, hn'⟩ := exists_takes hn harity hname hserver
      rw [← ht.served] at hu
      obtain ⟨d'', hrun, hcur⟩ := (ih d' hkrest).2 ⟨hn', hl, hu⟩
      exact ⟨d'', ⟨d', w, (step_eq_ok_iff hkc).2 ht, hrun⟩, hcur⟩

/-- Whatever commands a run takes are legal; nothing is asked of unknown ones. -/
theorem applyAll_legal {cs : List Command} (h : d.applyAll cs = .ok d') :
    ∀ c ∈ cs, c.HasLegalArity ∧ c.NamesItsType := by
  induction cs generalizing d with
  | nil => simp
  | cons c rest ih =>
    obtain ⟨d₁, w, hs, hrest⟩ := applyAll_cons_eq_ok_iff.1 h
    refine List.forall_mem_cons.2 ⟨?_, ih hrest⟩
    cases hk : c.kind with
    | unknown keyword =>
      simp [Command.HasLegalArity, Command.NamesItsType, Command.typeToken?, hk]
    | _ =>
      obtain ⟨harity, hname, -⟩ := ((step_eq_ok_iff (by rw [hk]; rfl)).1 hs).legal
      exact ⟨harity, hname⟩

theorem finish_isOk_iff : (∃ m w, d.finish = .ok (m, w)) ↔ d.current = none := by
  unfold finish
  cases d.current <;> simp

end Draft

/-! ## Clauses -/

/-- A part of the annotations of an API that stands on its own: a command outside of handlers, or a
handler from its `begin` to its `end`. -/
inductive Clause where
  | single (c : Command)
  | handler (opening : Command) (fields : List Command) (closing : Command)

namespace Clause

/-- The commands of a clause. -/
def commands : Clause → List Command
  | single c => [c]
  | handler opening fields closing => opening :: fields ++ [closing]

/-- Whether the commands of a clause are of the right kinds. -/
def IsFormed : Clause → Prop
  | single c => c.kind.isTopLevel = true
  | handler opening fields closing => opening.kind = .beginHandler ∧
      (∀ f ∈ fields, f.kind.isHandlerField = true) ∧ closing.kind = .endHandler

/-- Whether an `end` with an argument repeats the id of its `begin`. -/
def ClosesItself : Clause → Prop
  | single _ => True
  | handler opening _ closing => ∀ id, closing.args = [id] → opening.args = [id]

end Clause

/-- What is left of a nested sequence: clauses, or fields and an `end` of the open handler first. -/
def Splits : Option String → List Command → Prop
  | none, cs => ∃ clauses : List Clause, cs = clauses.flatMap Clause.commands ∧
      ∀ k ∈ clauses, k.IsFormed ∧ k.ClosesItself
  | some id, cs => ∃ fields closing, ∃ clauses : List Clause,
      cs = fields ++ closing :: clauses.flatMap Clause.commands ∧
      (∀ f ∈ fields, f.kind.isHandlerField = true) ∧ closing.kind = .endHandler ∧
      (closing.args = [] ∨ closing.args = [id]) ∧ ∀ k ∈ clauses, k.IsFormed ∧ k.ClosesItself

theorem Nested.splits {current : Option String} {cs : List Command} (h : Nested current cs) :
    Splits current cs := by
  induction h with
  | done => exact ⟨[], rfl, by simp⟩
  | @single c rest hc _ ih =>
    obtain ⟨clauses, rfl, hk⟩ := ih
    exact ⟨.single c :: clauses, rfl, List.forall_mem_cons.2 ⟨⟨hc, trivial⟩, hk⟩⟩
  | @opening c id rest hc ha _ ih =>
    obtain ⟨fields, closing, clauses, rfl, hf, hcl, hca, hk⟩ := ih
    refine ⟨.handler c fields closing :: clauses, by simp [Clause.commands],
      List.forall_mem_cons.2 ⟨⟨⟨hc, hf, hcl⟩, fun x hx => ?_⟩, hk⟩⟩
    rcases hca with hca | hca
    · rw [hca] at hx; cases hx
    · rw [ha, ← hca, hx]
  | @field c id rest hc _ ih =>
    obtain ⟨fields, closing, clauses, rfl, hf, hrest⟩ := ih
    exact ⟨c :: fields, closing, clauses, rfl, List.forall_mem_cons.2 ⟨hc, hf⟩, hrest⟩
  | @closing c id rest hc ha _ ih =>
    obtain ⟨clauses, rfl, hk⟩ := ih
    exact ⟨[], c, clauses, rfl, by simp, hc, ha, hk⟩

theorem nested_fields {id : String} {fields rest : List Command}
    (hf : ∀ f ∈ fields, f.kind.isHandlerField = true) (h : Nested (some id) rest) :
    Nested (some id) (fields ++ rest) := by
  induction fields with
  | nil => exact h
  | cons f fields ih =>
    obtain ⟨hf, hfields⟩ := List.forall_mem_cons.1 hf
    exact .field hf (ih hfields)

theorem nested_flatMap {clauses : List Clause}
    (hk : ∀ k ∈ clauses, k.IsFormed ∧ k.ClosesItself)
    (harity : ∀ c ∈ clauses.flatMap Clause.commands, c.HasLegalArity) :
    Nested none (clauses.flatMap Clause.commands) := by
  induction clauses with
  | nil => exact .done
  | cons k clauses ih =>
    obtain ⟨⟨hform, hclose⟩, hk⟩ := List.forall_mem_cons.1 hk
    rw [List.flatMap_cons] at harity ⊢
    have hrest := ih hk fun c hc => harity c (List.mem_append_right _ hc)
    have hown := fun c hc => harity c (List.mem_append_left _ hc)
    cases k with
    | single c => exact .single hform hrest
    | handler opening fields closing =>
      obtain ⟨ho, hf, hc⟩ := hform
      have hoa := hown opening (by simp [Clause.commands])
      have hca := hown closing (by simp [Clause.commands])
      -- the number of arguments of a `begin` and an `end` tells what they can be
      simp only [Command.HasLegalArity, ho] at hoa
      simp only [Command.HasLegalArity, hc] at hca
      obtain ⟨id, hoa⟩ := List.length_eq_one_iff.1 hoa
      have hargs : closing.args = [] ∨ closing.args = [id] := by
        rcases hcl : closing.args with _ | ⟨x, _ | ⟨y, ys⟩⟩
        · exact .inl rfl
        · exact .inr ((hclose x hcl).symm.trans hoa)
        · rw [hcl] at hca; simp at hca
      have h := nested_fields hf (.closing hc hargs hrest)
      simpa [Clause.commands] using Nested.opening ho hoa h

/-- The commands of one API give a document exactly if they are a sequence of clauses in which every
`end` fits its `begin`, each command has a legal number of arguments and names a type where it has
to, and every server variable has a `url` before it. -/
theorem ofCommands_isOk_iff (api : String) (cs : List Command)
    (hk : ∀ c ∈ cs, c.kind.isKnown = true) :
    (∃ m, ApiModel.ofCommands api cs = .ok m) ↔
      (∃ clauses : List Clause, cs = clauses.flatMap Clause.commands ∧
        (∀ k ∈ clauses, k.IsFormed) ∧ ∀ k ∈ clauses, k.ClosesItself) ∧
      (∀ c ∈ cs, c.HasLegalArity) ∧
      (∀ c ∈ cs, c.NamesItsType) ∧
      (∀ before c after, cs = before ++ c :: after → c.kind = .urlVariable →
        ∃ u ∈ before, u.kind = .url) := by
  have hrun : (∃ m, ApiModel.ofCommands api cs = .ok m) ↔
      ∃ d, (Draft.start api).applyAll cs = .ok d ∧ d.current = none := by
    simp only [ofCommands_eq_ok_iff, ← Draft.finish_isOk_iff]
    exact ⟨fun ⟨m, d, hd, w, hf⟩ => ⟨d, hd, m, w, hf⟩, fun ⟨d, hd, m, w, hf⟩ => ⟨m, d, hd, w, hf⟩⟩
  rw [hrun, Draft.applyAll_isOk_iff _ _ hk]
  have hurls : UrlsFirst ((Draft.start api).model.document.servers ≠ []) cs ↔
      ∀ before c after, cs = before ++ c :: after → c.kind = .urlVariable →
        ∃ u ∈ before, u.kind = .url := by
    simp [UrlsFirst, Draft.start]
  rw [hurls]
  constructor
  · rintro ⟨hn, hl, hu⟩
    obtain ⟨clauses, rfl, hform⟩ := hn.splits
    exact ⟨⟨clauses, rfl, fun k h => (hform k h).1, fun k h => (hform k h).2⟩,
      fun c h => (hl c h).1, fun c h => (hl c h).2, hu⟩
  · rintro ⟨⟨clauses, rfl, hform, hclose⟩, harity, hname, hu⟩
    exact ⟨nested_flatMap (fun k h => ⟨hform k h, hclose k h⟩) harity,
      fun c h => ⟨harity c h, hname c h⟩, hu⟩

/-- Annotations of an API with a server, a shared response and a routed handler. -/
def petCommands : List Command :=
  [⟨.url, ["https://{host}/v1"], none, none⟩,
   ⟨.urlVariable, ["host", "pets.example", "The", "host"], none, none⟩,
   ⟨.code, ["404", "{Problem}", "Not", "found"], none, none⟩,
   ⟨.beginHandler, ["listPets"], none, none⟩,
   ⟨.method, ["GET"], none, none⟩,
   ⟨.query, ["limit", "int"], none, none⟩,
   ⟨.response, ["200", "{[]Pet}", "All", "pets"], none, none⟩,
   ⟨.response, ["404"], none, none⟩,
   ⟨.endHandler, ["listPets"], none, none⟩,
   ⟨.route, ["/pets", "listPets"], none, none⟩]

/-- All kinds are known and a document is given, so the commands have the form of the grammar. -/
theorem ofCommands_isOk_iff_pets :
    (∀ c ∈ petCommands, c.kind.isKnown = true) ∧
    (∃ m, ApiModel.ofCommands "pets" petCommands = .ok m) ∧
    (∃ clauses : List Clause, petCommands = clauses.flatMap Clause.commands ∧
      (∀ k ∈ clauses, k.IsFormed) ∧ ∀ k ∈ clauses, k.ClosesItself) ∧
    (∀ c ∈ petCommands, c.HasLegalArity) ∧
    (∀ c ∈ petCommands, c.NamesItsType) := by
  have hk : ∀ c ∈ petCommands, c.kind.isKnown = true := by decide
  have hok : ∃ m, ApiModel.ofCommands "pets" petCommands = .ok m := ⟨_, by rfl⟩
  obtain ⟨hclauses, harity, hname, -⟩ := (ofCommands_isOk_iff "pets" petCommands hk).1 hok
  exact ⟨hk, hok, hclauses, harity, hname⟩

end ApiNotes
