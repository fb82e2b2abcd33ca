/-
The servers of a finished document. Each `url` adds a server, and the variables that stand behind it
up to the next `url` are those of that server; what else stands between them, be it whole blocks,
does not matter.
-/
import ApiNotes.Proofs.Api.Content

namespace ApiNotes

/-! ## What commands say about servers -/

/-- The variable that a `urlvar` states, with its name: a default value, and a description unless
that is empty. -/
def Command.urlVariable? (c : Command) : Option (String × ServerVariable) :=
  match c.kind, c.args with
  | .urlVariable, name :: defaultValue :: rest =>
    some (name, { defaultValue, description := nonEmpty? (" ".intercalate rest) })
  | _, _ => none

/-- The server with variables added to those that it has, each over an earlier one of its name. -/
def Server.addAll (s : Server) (added : List (String × ServerVariable)) : Server :=
  { s with vars := added.foldl (fun m e => m.insert e.1 e.2) s.vars }

/-! ## One command -/

theorem addVariable_concat (name : String) (x : ServerVariable) (servers : List Server)
    (s : Server) :
    addVariable name x (servers ++ [s]) = some (servers ++ [s.addAll [(name, x)]]) := by
  induction servers with
  | nil => rfl
  | cons first rest ih =>
    rw [List.cons_append, addVariable, ih, Option.map_some, List.cons_append]
    simp

/-- A command that is no `url` changes the last server at most. -/
theorem serversAfter_concat {c : Command} (hurl : c.kind ≠ .url) (servers : List Server)
    (s : Server) : ∃ added, serversAfter (servers ++ [s]) c = servers ++ [s.addAll added] ∧
      (c.HasLegalArity → added = c.urlVariable?.toList) := by
  cases hk : c.kind with
  | url => exact absurd hk hurl
  | urlVariable =>
    refine ⟨[(c.args.getD 0 "",
      { defaultValue := c.args.getD 1 "", description := nonEmpty? (c.textFrom 2) })], ?_, ?_⟩
    · simp only [serversAfter, hk, addVariable_concat, Option.getD_some]
    · intro hlegal
      rw [Command.HasLegalArity, hk] at hlegal
      obtain ⟨name, value, rest, ha⟩ := exists_two_of_two_le_length hlegal
      simp [Command.urlVariable?, hk, ha, Command.textFrom]
  | _ =>
    refine ⟨[], by simp [serversAfter, hk, Server.addAll], fun _ => ?_⟩
    simp [Command.urlVariable?, hk]

theorem serversAfter_url {c : Command} (hurl : c.kind = .url) (servers : List Server) :
    serversAfter servers c = servers ++ [{ url := c.args.getLastD "" }] := by
  rw [serversAfter, hurl]

theorem serversAfter_nil {c : Command} (hurl : c.kind ≠ .url) : serversAfter [] c = [] := by
  unfold serversAfter
  split
  · contradiction
  · rfl
  · rfl

/-- The addresses after a command: a `url` adds its last argument. -/
theorem map_url_serversAfter (c : Command) (servers : List Server) :
    (serversAfter servers c).map Server.url =
      servers.map Server.url ++ if c.kind = .url then [c.args.getLastD ""] else [] := by
  by_cases hurl : c.kind = .url
  · simp [serversAfter_url hurl, hurl]
  · rw [if_neg hurl, List.append_nil]
    rcases List.eq_nil_or_concat servers with rfl | ⟨front, last, rfl⟩
    · rw [serversAfter_nil hurl]
    · obtain ⟨added, heq, -⟩ := serversAfter_concat hurl front last
      simp [heq, Server.addAll]

/-! ## Sequences of commands -/

theorem map_url_foldl (cs : List Command) (servers : List Server) :
    (cs.foldl serversAfter servers).map Server.url =
      servers.map Server.url ++ (cs.filter (·.kind = .url)).map (·.args.getLastD "") := by
  induction cs generalizing servers with
  | nil => simp
  | cons c rest ih =>
    rw [List.foldl_cons, ih, map_url_serversAfter, List.append_assoc]
    by_cases hurl : c.kind = .url <;> simp [hurl]

/-- Up to the next `url`, variables go to the last server, in order. -/
theorem foldl_serversAfter_between {between : List Command}
    (hurl : ∀ c ∈ between, c.kind ≠ .url) (hlegal : ∀ c ∈ between, c.HasLegalArity)
    (servers : List Server) (s : Server) :
    between.foldl serversAfter (servers ++ [s]) =
      servers ++ [s.addAll (between.filterMap Command.urlVariable?)] := by
  induction between generalizing s with
  | nil => rfl
  | cons c rest ih =>
    obtain ⟨hc, hrest⟩ := List.forall_mem_cons.1 hurl
    obtain ⟨hlc, hlrest⟩ := List.forall_mem_cons.1 hlegal
    obtain ⟨added, heq, hadded⟩ := serversAfter_concat hc servers s
    rw [List.foldl_cons, heq, hadded hlc, ih hrest hlrest]
    cases hv : c.urlVariable? <;> simp [Server.addAll, hv]

/-- All servers but the last one are settled. -/
theorem prefix_foldl_serversAfter (cs : List Command) (servers : List Server) (s : Server) :
    servers <+: cs.foldl serversAfter (servers ++ [s]) := by
  induction cs generalizing servers s with
  | nil => exact List.prefix_append _ _
  | cons c rest ih =>
    rw [List.foldl_cons]
    by_cases hurl : c.kind = .url
    · rw [serversAfter_url hurl]
      exact (List.prefix_append _ _).trans (ih (servers ++ [s]) _)
    · obtain ⟨added, heq, -⟩ := serversAfter_concat hurl servers s
      rw [heq]
      exact ih servers _

/-- From a `url` on, all servers that there are are settled. -/
theorem prefix_foldl_of_url {cs : List Command} (hurl : ∀ c, cs.head? = some c → c.kind = .url)
    (servers : List Server) : servers <+: cs.foldl serversAfter servers := by
  cases cs with
  | nil => exact List.prefix_refl _
  | cons c rest =>
    rw [List.foldl_cons, serversAfter_url (hurl c rfl)]
    exact prefix_foldl_serversAfter rest servers _

/-! ## Finished documents -/

theorem getLast?_args_of_url {c : Command} (hlegal : c.HasLegalArity) (hurl : c.kind = .url) :
    c.args.getLast? = some (c.args.getLastD "") := by
  have hne : c.args ≠ [] := by
    rintro ha
    simp [Command.HasLegalArity, hurl, ha] at hlegal
  rw [List.getLast?_eq_some_getLast hne, List.getLastD_eq_getLast?,
    List.getLast?_eq_some_getLast hne, Option.getD_some]

/-- The servers of a finished document. There is one for each `url`, in their order, and its address
is the last argument of the `url`. The server of a `url` has just the variables that stand between
that `url` and the next one, or the end: of two variables of one name it has the later. Each of
these has a name and a default value. -/
theorem ofCommands_servers (api : String) (cs : List Command) (m : ApiModel)
    (h : ApiModel.ofCommands api cs = .ok m) :
    m.document.servers.map (fun s => some s.url) =
      (cs.filter (·.kind = .url)).map (·.args.getLast?) ∧
    (∀ before u between after, cs = before ++ u :: (between ++ after) → u.kind = .url →
      (∀ c ∈ between, c.kind ≠ .url) → (∀ c, after.head? = some c → c.kind = .url) →
      ∃ s, m.document.servers[(before.filter (·.kind = .url)).length]? = some s ∧
        u.args.getLast? = some s.url ∧
        s.vars = .ofList (between.filterMap Command.urlVariable?)) ∧
    ∀ c ∈ cs, c.kind = .urlVariable → ∃ name defaultValue rest,
      c.args = name :: defaultValue :: rest := by
  obtain ⟨d, hrun, -⟩ := ofCommands_eq_ok_iff.1 h
  have hlegal : ∀ c ∈ cs, c.HasLegalArity := fun c hc => (Draft.applyAll_legal hrun c hc).1
  have hservers : m.document.servers = cs.foldl serversAfter [] := by
    rw [ofCommands_eq_told h]
    rfl
  refine ⟨?_, ?_, fun c hc hk => ?_⟩
  · have hurls := congrArg (List.map some) (map_url_foldl cs [])
    rw [← hservers, List.map_nil, List.nil_append, List.map_map, List.map_map] at hurls
    refine hurls.trans (List.map_congr_left fun c hc => ?_)
    obtain ⟨hc, hk⟩ := List.mem_filter.1 hc
    exact (getLast?_args_of_url (hlegal c hc) (by simpa using hk)).symm
  · rintro before u between after rfl hu hbetween hafter
    have hlength : (before.foldl serversAfter []).length =
        (before.filter (·.kind = .url)).length := by
      simpa using congrArg List.length (map_url_foldl before [])
    have hown := foldl_serversAfter_between hbetween (fun c hc => hlegal c (by simp [hc]))
      (before.foldl serversAfter []) { url := u.args.getLastD "" }
    generalize hs : ({ url := u.args.getLastD "" } : Server).addAll
      (between.filterMap Command.urlVariable?) = s at hown
    -- what comes after the next `url` leaves the servers up to it alone
    obtain ⟨more, hmore⟩ := prefix_foldl_of_url hafter (before.foldl serversAfter [] ++ [s])
    rw [List.foldl_append, List.foldl_cons, List.foldl_append, serversAfter_url hu, hown, ← hmore,
      List.append_assoc] at hservers
    refine ⟨s, ?_, hs ▸ getLast?_args_of_url (hlegal u (by simp)) hu, hs ▸ rfl⟩
    rw [hservers, ← hlength, List.getElem?_append_right (Nat.le_refl _)]
    simp
  · have harity := hlegal c hc
    rw [Command.HasLegalArity, hk] at harity
    exact exists_two_of_two_le_length harity

/-- Two servers, the first with a block and the title between its variables. -/
def serverCommands : List Command :=
  [⟨.url, ["https://pets/v1"], none, none⟩,
   ⟨.urlVariable, ["region", "eu", "where", "it", "runs"], none, none⟩,
   ⟨.beginHandler, ["list"], none, none⟩,
   ⟨.tags, ["pets"], none, none⟩,
   ⟨.endHandler, [], none, none⟩,
   ⟨.urlVariable, ["port", "80"], none, none⟩,
   ⟨.title, ["Pets"], none, none⟩,
   ⟨.urlVariable, ["region", "us"], none, none⟩,
   ⟨.url, ["", "https://pets/v1"], none, none⟩]

/-- The later `region` counts, and the repeated address makes a server without variables. -/
theorem ofCommands_servers_pets : ∃ m, ApiModel.ofCommands "" serverCommands = .ok m ∧
    m.document.servers.map Server.url = ["https://pets/v1", "https://pets/v1"] ∧
    ∃ s, m.document.servers[0]? = some s ∧ s.vars.entries =
      [("port", { defaultValue := "80" }), ("region", { defaultValue := "us" })] := by
  obtain ⟨m, hm⟩ : ∃ m, ApiModel.ofCommands "" serverCommands = .ok m := ⟨_, by rfl⟩
  obtain ⟨hurls, hservers, -⟩ := ofCommands_servers "" serverCommands m hm
  refine ⟨m, hm, ?_, ?_⟩
  · refine List.map_injective_iff.2 (fun _ _ => Option.some.inj) ?_
    rw [List.map_map]
    exact hurls.trans (by rfl)
  · obtain ⟨s, hs, -, hvars⟩ := hservers [] ⟨.url, ["https://pets/v1"], none, none⟩
      (serverCommands.tail.take 7) [⟨.url, ["", "https://pets/v1"], none, none⟩] (by rfl) rfl
      (by decide) (by simp)
    exact ⟨s, hs, by rw [hvars]; rfl⟩

end ApiNotes
