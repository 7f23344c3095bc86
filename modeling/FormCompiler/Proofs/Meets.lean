import FormCompiler.Body.Operand

namespace FormCompiler.Build

variable {c : Body} {t : Token}

variable {α β : Type} {b : Body} {x y : Build α} {done done' : α → Body → Prop}
  {failed failed' : Fault → Body → Prop} {middle : α → Body → Prop} {f g : α → Build β} {result : β → Body → Prop}

def Meets (b : Body) (x : Build α) (done : α → Body → Prop) (failed : Fault → Body → Prop) : Prop :=
  match x b with
  | .ok a c => done a c
  | .error f c => failed f c

def Agree (b : Body) (x y : Build α) (done : α → Body → Prop) (failed : Fault → Body → Prop) : Prop :=
  x b = y b ∧ Meets b x done failed

theorem bind_of_ok {a : α} (run : x b = .ok a c) : (x >>= f) b = f a c := by
  simp only [Bind.bind, EStateM.bind, run]

theorem bind_of_error {e : Fault} (run : x b = .error e c) : (x >>= f) b = .error e c := by
  simp only [Bind.bind, EStateM.bind, run]

namespace Meets

theorem of_ok {a : α} (run : x b = .ok a c) (h : done a c) : Meets b x done failed := by
  simpa only [Meets, run] using h

theorem of_error {f : Fault} (run : x b = .error f c) (h : failed f c) : Meets b x done failed := by
  simpa only [Meets, run] using h

theorem ok {a : α} (h : Meets b x done failed) (run : x b = .ok a c) : done a c := by
  simpa only [Meets, run] using h

theorem error {f : Fault} (h : Meets b x done failed) (run : x b = .error f c) : failed f c := by
  simpa only [Meets, run] using h

theorem exists_ok (h : Meets b x done fun _ _ => False) : ∃ a c, x b = .ok a c ∧ done a c := by
  cases run : x b with
  | ok a c => exact ⟨a, c, rfl, h.ok run⟩
  | error f c => exact (h.error run).elim

theorem self (b : Body) (x : Build α) :
    Meets b x (fun a c => x b = .ok a c) fun f c => x b = .error f c := by
  cases run : x b with
  | ok a c => exact of_ok run rfl
  | error f c => exact of_error run rfl

instance [∀ a c, Decidable (done a c)] [∀ f c, Decidable (failed f c)] : Decidable (Meets b x done failed) :=
  match run : x b with
  | .ok a c => decidable_of_iff (done a c) ⟨of_ok run, fun h => h.ok run⟩
  | .error f c => decidable_of_iff (failed f c) ⟨of_error run, fun h => h.error run⟩

theorem any (b : Body) (x : Build α) : Meets b x (fun _ _ => True) fun _ _ => True := by
  cases run : x b with
  | ok => exact of_ok run trivial
  | error => exact of_error run trivial

theorem mono (h : Meets b x done failed) (hd : ∀ a c, done a c → done' a c)
    (hf : ∀ f c, failed f c → failed' f c) : Meets b x done' failed' := by
  cases run : x b with
  | ok a c => exact of_ok run (hd _ _ (h.ok run))
  | error f c => exact of_error run (hf _ _ (h.error run))

theorem and (h : Meets b x done failed) (k : Meets b x done' failed') :
    Meets b x (fun a c => done a c ∧ done' a c) fun f c => failed f c ∧ failed' f c := by
  cases run : x b with
  | ok a c => exact of_ok run ⟨h.ok run, k.ok run⟩
  | error f c => exact of_error run ⟨h.error run, k.error run⟩

theorem pure {a : α} (h : done a b) : Meets b (Pure.pure a) done failed := h

theorem throw {f : Fault} (h : failed f b) : Meets b (MonadExcept.throw f : Build α) done failed := h

theorem complain {c : Complaint} (h : failed (.complaint c (some t)) b) :
    Meets b (Build.complain c t : Build α) done failed := h

theorem breakDown {d : Breakdown} (h : failed (.broken d) b) : Meets b (Build.breakDown d : Build α) done failed := h

theorem bind (h : Meets b x middle failed) (hf : ∀ a c, middle a c → Meets c (f a) result failed) :
    Meets b (x >>= f) result failed := by
  cases run : x b with
  | ok a c =>
    have rest := hf a c (h.ok run)
    simpa only [Meets, bind_of_ok run] using rest
  | error e c => exact of_error (bind_of_error run) (h.error run)

theorem pure_bind {a : α} (h : Meets b (f a) result failed) :
    Meets b (Pure.pure a >>= f) result failed := h

theorem complain_bind {c : Complaint}
    (h : failed (.complaint c (some t)) b) : Meets b (Build.complain c t >>= f) result failed := h

theorem get_bind {f : Body → Build β} (h : Meets b (f b) result failed) :
    Meets b (MonadState.get >>= f) result failed := h

theorem changed {g : Body → Body} {done : Unit → Body → Prop} (h : done () (g b)) :
    Meets b (modify g : Build Unit) done failed := h

theorem changed_bind {g : Body → Body} {f : PUnit → Build β}
    (h : Meets (g b) (f ⟨⟩) result failed) : Meets b ((modify g : Build PUnit) >>= f) result failed := h

theorem ite {p : Prop} [Decidable p] {x y : Build α} (hx : p → Meets b x done failed)
    (hy : ¬p → Meets b y done failed) : Meets b (if p then x else y) done failed := by
  split
  · exact hx ‹_›
  · exact hy ‹_›

theorem pinned {token : Option Token} (h : Meets b x done fun f c => failed (f.pinned token) c) :
    Meets b (Build.pinned token x) done failed := by
  cases run : x b with
  | ok a c =>
    have same : Build.pinned token x b = .ok a c := by simp only [Build.pinned, EStateM.adaptExcept, run]
    exact of_ok same (h.ok run)
  | error f c =>
    have same : Build.pinned token x b = .error (f.pinned token) c := by
      simp only [Build.pinned, EStateM.adaptExcept, run]
    exact of_error same (h.error run)

end Meets

namespace Agree

theorem of_meets (h : Meets b x done failed) : Agree b x x done failed := ⟨rfl, h⟩

theorem of_eq {x' y' : Build α} (hx : x b = x' c) (hy : y b = y' c) (h : Agree c x' y' done failed) :
    Agree b x y done failed :=
  ⟨hx.trans (h.1.trans hy.symm), by simpa only [Meets, hx] using h.2⟩

theorem mono (h : Agree b x y done failed) (hd : ∀ a c, done a c → done' a c)
    (hf : ∀ f c, failed f c → failed' f c) : Agree b x y done' failed' := ⟨h.1, h.2.mono hd hf⟩

theorem bind (h : Agree b x y middle failed) (hf : ∀ a c, middle a c → Agree c (f a) (g a) result failed) :
    Agree b (x >>= f) (y >>= g) result failed := by
  refine ⟨?_, h.2.bind fun a c m => (hf a c m).2⟩
  cases run : x b with
  | ok a c =>
    have other : y b = .ok a c := h.1 ▸ run
    rw [bind_of_ok run, bind_of_ok other]
    exact (hf a c (h.2.ok run)).1
  | error e c =>
    have other : y b = .error e c := h.1 ▸ run
    rw [bind_of_error run, bind_of_error other]

theorem after (h : Meets b x middle failed) (hf : ∀ a c, middle a c → Agree c (f a) (g a) result failed) :
    Agree b (x >>= f) (x >>= g) result failed := (of_meets h).bind hf

theorem pure_bind {a : α} (h : Agree b (f a) (g a) result failed) :
    Agree b (Pure.pure a >>= f) (Pure.pure a >>= g) result failed := h

theorem complain {c : Complaint} (h : failed (.complaint c (some t)) b) :
    Agree b (Build.complain c t : Build α) (Build.complain c t) done failed := ⟨rfl, h⟩

theorem complain_bind {c : Complaint} (h : failed (.complaint c (some t)) b) :
    Agree b (Build.complain c t >>= f) (Build.complain c t >>= g) result failed := ⟨rfl, h⟩

theorem get_bind {f g : Body → Build β} (h : Agree b (f b) (g b) result failed) :
    Agree b (MonadState.get >>= f) (MonadState.get >>= g) result failed := h

theorem changed_bind {c : Body → Body} {f g : PUnit → Build β}
    (h : Agree (c b) (f ⟨⟩) (g ⟨⟩) result failed) :
    Agree b ((modify c : Build PUnit) >>= f) ((modify c : Build PUnit) >>= g) result failed := h

theorem ite {p : Prop} [Decidable p] {x y x' y' : Build α} (hx : p → Agree b x x' done failed)
    (hy : ¬p → Agree b y y' done failed) : Agree b (if p then x else y) (if p then x' else y') done failed := by
  split
  · exact hx ‹_›
  · exact hy ‹_›

theorem inScope {x y : Build α} (h : Agree { b with env := b.env.enter } x y
      (fun a c => done a (c.leaveTo b.env.depth)) fun f c => failed f (c.leaveTo b.env.depth)) :
    Agree b (Build.inScope x) (Build.inScope y) done failed := by
  refine ⟨by simp only [Build.inScope, h.1], ?_⟩
  cases run : x { b with env := b.env.enter } with
  | ok a c =>
    have same : Build.inScope x b = .ok a (c.leaveTo b.env.depth) := by simp only [Build.inScope, run]
    exact Meets.of_ok same (h.2.ok run)
  | error f c =>
    have same : Build.inScope x b = .error f (c.leaveTo b.env.depth) := by simp only [Build.inScope, run]
    exact Meets.of_error same (h.2.error run)

theorem attempt {x y : Build α} {done : Option α → Body → Prop}
    (h : Agree b x y (fun a c => done (some a) c) fun f c => if f.isUserFault then done none c else failed f c) :
    Agree b (Build.attempt x) (Build.attempt y) done failed := by
  refine ⟨by simp only [Build.attempt, h.1], ?_⟩
  cases run : x b with
  | ok a c =>
    have same : Build.attempt x b = .ok (some a) c := by simp only [Build.attempt, run]
    exact Meets.of_ok same (h.2.ok run)
  | error f c =>
    have outcome := h.2.error run
    cases user : f.isUserFault with
    | true =>
      have same : Build.attempt x b = .ok none c := by simp only [Build.attempt, run, user, if_true]
      simp only [user, if_true] at outcome
      exact Meets.of_ok same outcome
    | false =>
      have same : Build.attempt x b = .error f c := by
        simp only [Build.attempt, run, user, Bool.false_eq_true, if_false]
      simp only [user, Bool.false_eq_true, if_false] at outcome
      exact Meets.of_error same outcome

end Agree

end FormCompiler.Build
