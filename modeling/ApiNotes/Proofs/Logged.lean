/-
Outcomes of computations with a log. The outcome of a combination is the combination of the
outcomes, whatever the logs say, so a statement about outcomes can forget the logs at once.
-/
import ApiNotes.Log
import Mathlib.Data.List.Forall2

namespace ApiNotes.Logged

variable {ε ε' α β : Type}

@[simp]
theorem result_pure (a : α) : (pure a : Logged ε α).result = .ok a :=
  rfl

@[simp]
theorem result_warn (ws : List Warning) : (warn ws : Logged ε Unit).result = .ok () :=
  rfl

@[simp]
theorem result_tell (p : Progress) : (tell p : Logged ε Unit).result = .ok () :=
  rfl

@[simp]
theorem result_ofExcept (x : Except ε α) : (ofExcept x).result = x :=
  rfl

@[simp]
theorem result_mapError (f : ε → ε') (x : Logged ε α) :
    (x.mapError f).result = x.result.mapError f :=
  rfl

@[simp]
theorem result_bind (x : Logged ε α) (f : α → Logged ε β) :
    (x >>= f).result = x.result >>= fun a => (f a).result := by
  show (Logged.bind x f).result = _
  unfold Logged.bind
  cases x.result <;> rfl

/-! ## Computations in sequence -/

theorem bind_ok (log : List LogEntry) (a : α) (f : α → Logged ε β) :
    (⟨log, .ok a⟩ : Logged ε α) >>= f = ⟨log ++ (f a).log, (f a).result⟩ :=
  rfl

instance : LawfulMonad (Logged ε) :=
  LawfulMonad.mk' _
    (by
      rintro α ⟨log, result⟩
      cases result with
      | error e => rfl
      | ok a => exact congrArg (Logged.mk · _) (List.append_nil log))
    (fun _ _ => rfl)
    (by
      rintro α β γ ⟨log, result⟩ f g
      cases result with
      | error e => rfl
      | ok a =>
        rw [bind_ok, bind_ok]
        obtain ⟨log', result'⟩ := f a
        cases result' with
        | error e => rfl
        | ok b => rw [bind_ok, bind_ok, List.append_assoc])

/-- What follows a computation only counts for the results it can have. -/
theorem bind_congr_of_result {x : Logged ε α} {f g : α → Logged ε β}
    (h : ∀ a, x.result = .ok a → f a = g a) : x >>= f = x >>= g := by
  obtain ⟨log, result⟩ := x
  cases result with
  | error e => rfl
  | ok a => rw [bind_ok, bind_ok, h a rfl]

end ApiNotes.Logged

namespace ApiNotes

/-! ## Outcomes in sequence -/

variable {ε ε' α β : Type}

theorem bind_eq_ok_iff {x : Except ε α} {f : α → Except ε β} {b : β} :
    (x >>= f) = .ok b ↔ ∃ a, x = .ok a ∧ f a = .ok b := by
  cases x with
  | error e => simp [bind, Except.bind]
  | ok a => simp [bind, Except.bind]

theorem bind_eq_error_iff {x : Except ε α} {f : α → Except ε β} {e : ε} :
    (x >>= f) = .error e ↔ x = .error e ∨ ∃ a, x = .ok a ∧ f a = .error e := by
  cases x with
  | error e => simp [bind, Except.bind]
  | ok a => simp [bind, Except.bind]

theorem map_eq_ok_iff {x : Except ε α} {f : α → β} {b : β} :
    x.map f = .ok b ↔ ∃ a, x = .ok a ∧ f a = b := by
  cases x <;> simp [Except.map]

theorem map_eq_error_iff {x : Except ε α} {f : α → β} {e : ε} :
    x.map f = .error e ↔ x = .error e := by
  cases x <;> simp [Except.map]

theorem mapError_eq_ok_iff {x : Except ε α} {f : ε → ε'} {a : α} :
    x.mapError f = .ok a ↔ x = .ok a := by
  cases x <;> simp [Except.mapError]

theorem mapError_eq_error_iff {x : Except ε α} {f : ε → ε'} {e : ε'} :
    x.mapError f = .error e ↔ ∃ cause, x = .error cause ∧ e = f cause := by
  cases x <;> simp [Except.mapError, eq_comm]

/-- A list is mapped when each of its elements is. -/
theorem mapM_eq_ok_iff {f : α → Except ε β} {l : List α} {l' : List β} :
    l.mapM f = .ok l' ↔ List.Forall₂ (fun a b => f a = .ok b) l l' := by
  induction l generalizing l' with
  | nil => simp [pure, Except.pure, eq_comm]
  | cons a rest ih =>
    rw [List.mapM_cons, bind_eq_ok_iff]
    constructor
    · rintro ⟨b, hb, h⟩
      obtain ⟨bs, hbs, h⟩ := bind_eq_ok_iff.1 h
      cases h
      exact .cons hb (ih.1 hbs)
    · rintro (_ | ⟨hb, hbs⟩)
      exact ⟨_, hb, bind_eq_ok_iff.2 ⟨_, ih.2 hbs, rfl⟩⟩

/-- The first element with `P`, up to which all have `Q`, is the head or in the tail. -/
theorem exists_first_cons {P Q : α → Prop} {a : α} {l : List α} :
    (∃ before x after, a :: l = before ++ x :: after ∧ P x ∧ ∀ b ∈ before, Q b) ↔
      P a ∨ Q a ∧ ∃ before x after, l = before ++ x :: after ∧ P x ∧ ∀ b ∈ before, Q b := by
  constructor
  · rintro ⟨before, x, after, hl, hx, hbefore⟩
    cases before with
    | nil => cases hl; exact .inl hx
    | cons y before =>
      cases hl
      obtain ⟨ha, hrest⟩ := List.forall_mem_cons.1 hbefore
      exact .inr ⟨ha, before, x, after, rfl, hx, hrest⟩
  · rintro (ha | ⟨ha, before, x, after, rfl, hx, hbefore⟩)
    · exact ⟨[], a, l, rfl, ha, by simp⟩
    · exact ⟨a :: before, x, after, rfl, hx, List.forall_mem_cons.2 ⟨ha, hbefore⟩⟩

/-- The first element of a kind has the same place in two lists that agree on the kind. -/
theorem exists_first_congr {R : α → β → Prop} {P Q : α → Prop} {P' Q' : β → Prop}
    {l : List α} {l' : List β} (h : List.Forall₂ R l l')
    (hP : ∀ a b, R a b → (P a ↔ P' b)) (hQ : ∀ a b, R a b → (Q a ↔ Q' b)) :
    (∃ before x after, l = before ++ x :: after ∧ P x ∧ ∀ b ∈ before, Q b) ↔
      ∃ before x after, l' = before ++ x :: after ∧ P' x ∧ ∀ b ∈ before, Q' b := by
  induction h with
  | nil => simp
  | cons hab _ ih => rw [exists_first_cons, exists_first_cons, ih, hP _ _ hab, hQ _ _ hab]

/-- What holds of all elements of a list holds of all elements of one that agrees on it. -/
theorem forall_mem_congr {R : α → β → Prop} {P : α → Prop} {P' : β → Prop} {l : List α}
    {l' : List β} (h : List.Forall₂ R l l') (hP : ∀ a b, R a b → (P a ↔ P' b)) :
    (∀ a ∈ l, P a) ↔ ∀ b ∈ l', P' b := by
  induction h with
  | nil => simp
  | cons hab _ ih => rw [List.forall_mem_cons, List.forall_mem_cons, ih, hP _ _ hab]

/-- An element of a list agrees with some element of the other one. -/
theorem exists_of_mem_right {R : α → β → Prop} {l : List α} {l' : List β}
    (h : List.Forall₂ R l l') {b : β} (hb : b ∈ l') : ∃ a ∈ l, R a b := by
  induction h with
  | nil => cases hb
  | cons hab _ ih =>
    rcases List.mem_cons.1 hb with rfl | hb
    · exact ⟨_, List.mem_cons_self .., hab⟩
    · obtain ⟨a, ha, hab⟩ := ih hb
      exact ⟨a, List.mem_cons_of_mem _ ha, hab⟩

theorem forall₂_eq_map_iff {f : α → β} {l : List α} {l' : List β} :
    List.Forall₂ (fun a b => b = f a) l l' ↔ l' = l.map f := by
  constructor
  · intro h
    induction h with
    | nil => rfl
    | cons hab _ ih => rw [hab, ih, List.map_cons]
  · rintro rfl
    exact List.forall₂_map_right_iff.2 (List.forall₂_same.2 fun _ _ => rfl)

theorem forall₂_comp {γ : Type} {R : α → β → Prop} {S : β → γ → Prop} {l : List α} {n : List γ} :
    (∃ m, List.Forall₂ R l m ∧ List.Forall₂ S m n) ↔
      List.Forall₂ (fun a c => ∃ b, R a b ∧ S b c) l n := by
  constructor
  · rintro ⟨m, hR, hS⟩
    induction hR generalizing n with
    | nil => cases hS; exact .nil
    | cons hab _ ih => cases hS with | cons hbc hS => exact .cons ⟨_, hab, hbc⟩ (ih hS)
  · intro h
    induction h with
    | nil => exact ⟨[], .nil, .nil⟩
    | cons hac _ ih =>
      obtain ⟨b, hab, hbc⟩ := hac
      obtain ⟨m, hR, hS⟩ := ih
      exact ⟨b :: m, .cons hab hR, .cons hbc hS⟩

/-- A list fails to be mapped at the first of its elements that does. -/
theorem mapM_eq_error_iff {f : α → Except ε β} {l : List α} {e : ε} :
    l.mapM f = .error e ↔ ∃ before a after, l = before ++ a :: after ∧ f a = .error e ∧
      ∀ x ∈ before, ∃ b, f x = .ok b := by
  induction l with
  | nil => simp [pure, Except.pure]
  | cons a rest ih =>
    rw [List.mapM_cons, bind_eq_error_iff, exists_first_cons, ← ih]
    simp only [bind_eq_error_iff, pure, Except.pure, reduceCtorEq, and_false, exists_false,
      or_false, exists_and_right]

/-- A list whose elements can all be mapped can be mapped. -/
theorem mapM_isOk_iff {f : α → Except ε β} {l : List α} :
    (∃ l', l.mapM f = .ok l') ↔ ∀ a ∈ l, ∃ b, f a = .ok b := by
  constructor
  · rintro ⟨l', h⟩
    have hall : (∀ a ∈ l, ∃ b, f a = .ok b) ↔ ∀ b ∈ l', True :=
      forall_mem_congr (mapM_eq_ok_iff.1 h) fun a b hab => iff_of_true ⟨b, hab⟩ trivial
    exact hall.2 fun _ _ => trivial
  · intro h
    cases hm : l.mapM f with
    | ok l' => exact ⟨l', rfl⟩
    | error e =>
      obtain ⟨before, a, after, rfl, ha, -⟩ := mapM_eq_error_iff.1 hm
      obtain ⟨b, hb⟩ := h a (by simp)
      rw [hb] at ha
      cases ha

end ApiNotes
