import FormCompiler.Body.Fault
import FormCompiler.Function.Definition
import FormCompiler.Node.Read

namespace FormCompiler

section Ends

variable {ε α β : Type} {x : Except ε α} {done : α → Prop} {failed : ε → Prop}

def Ends (x : Except ε α) (done : α → Prop) (failed : ε → Prop) : Prop :=
  match x with
  | .ok a => done a
  | .error e => failed e

namespace Ends

theorem ok {a : α} (h : Ends x done failed) (run : x = .ok a) : done a := by
  subst run
  exact h

theorem error {e : ε} (h : Ends x done failed) (run : x = .error e) : failed e := by
  subst run
  exact h

theorem bind {f : α → Except ε β} {done' : β → Prop} (h : Ends x done failed)
    (hf : ∀ a, done a → Ends (f a) done' failed) : Ends (x >>= f) done' failed := by
  cases x with
  | ok a => exact hf a h
  | error e => exact h

theorem map {f : α → β} {done' : β → Prop} (h : Ends x done failed) (hf : ∀ a, done a → done' (f a)) :
    Ends (x.map f) done' failed := by
  cases x with
  | ok a => exact hf a h
  | error e => exact h

theorem mapError {ε' : Type} {f : ε → ε'} {failed' : ε' → Prop} (h : Ends x done fun e => failed' (f e)) :
    Ends (x.mapError f) done failed' := by
  cases x with
  | ok a => exact h
  | error e => exact h

theorem mono {done' : α → Prop} {failed' : ε → Prop} (h : Ends x done failed) (hd : ∀ a, done a → done' a)
    (hf : ∀ e, failed e → failed' e) : Ends x done' failed' := by
  cases x with
  | ok a => exact hd a h
  | error e => exact hf e h

theorem of_all (hd : ∀ a, done a) (hf : ∀ e, failed e) : Ends x done failed := by
  cases x with
  | ok a => exact hd a
  | error e => exact hf e

theorem any (x : Except ε α) : Ends x (fun _ => True) fun _ => True := .of_all (fun _ => trivial) fun _ => trivial

theorem ite {p : Prop} [Decidable p] {x y : Except ε α} (hx : p → Ends x done failed)
    (hy : ¬p → Ends y done failed) : Ends (if p then x else y) done failed := by
  split
  · exact hx ‹_›
  · exact hy ‹_›

end Ends

end Ends

structure Report.Proper (r : Report) : Prop where
  topic : (Report.Topic.ofId? r.id).isSome
  made : Report.make? r.id r.arguments r.token = some r

instance (r : Report) : Decidable r.Proper :=
  decidable_of_iff (_ ∧ _) ⟨fun ⟨topic, made⟩ => ⟨topic, made⟩, fun h => ⟨h.topic, h.made⟩⟩

namespace Report.Topic

theorem mem_all (t : Topic) : t ∈ all := by cases t <;> decide

theorem nodup_id : (all.map id).Nodup := by decide +kernel

theorem ofId?_id (t : Topic) : ofId? t.id = some t := by
  obtain ⟨front, back, split⟩ := List.append_of_mem t.mem_all
  have once := nodup_id
  rw [split, List.map_append, List.nodup_append] at once
  rw [ofId?, split, List.find?_eq_some_iff_append]
  refine ⟨by simp, front, back, rfl, fun s inside => ?_⟩
  have other : s.id ≠ t.id := once.2.2 _ (List.mem_map_of_mem inside) _ (by simp)
  simpa using other

end Report.Topic

variable (c : Complaint) (token : Option Token)

theorem Complaint.report_proper : (c.report token).Proper := by
  have known : Report.Topic.ofId? (c.report token).id = some c.topic := c.topic.ofId?_id
  refine ⟨by rw [known]; rfl, ?_⟩
  simp only [Report.make?, known]
  show (Report.render? c.arguments c.topic.entry.message).map _ = _
  rw [← Option.some_get c.render?_isSome]
  rfl

theorem Complaint.proper_append {rs : List Report} (h : ∀ r ∈ rs, r.Proper) (c : Complaint)
    (token : Option Token) : ∀ r ∈ rs ++ [c.report token], r.Proper := by
  intro r inside
  rcases List.mem_append.mp inside with old | new
  · exact h r old
  · obtain rfl := List.mem_singleton.mp new
    exact c.report_proper token

def Fault.Proper : Fault → Prop
  | .reported first more => first.Proper ∧ ∀ r ∈ more, r.Proper
  | _ => False

instance : (f : Fault) → Decidable f.Proper
  | .reported first more => inferInstanceAs (Decidable (first.Proper ∧ ∀ r ∈ more, r.Proper))
  | .unsized _ | .defect _ | .broken _ => inferInstanceAs (Decidable False)

theorem Fault.complaint_proper : (Fault.complaint c token).Proper := ⟨c.report_proper token, by simp⟩

def Fault.Single : Fault → Prop
  | .reported r [] => r.Proper
  | _ => False

theorem Fault.complaint_single : (Fault.complaint c token).Single := c.report_proper token

theorem Fault.Single.proper : ∀ {f : Fault}, f.Single → f.Proper
  | .reported _ [], proper => ⟨proper, by simp⟩

theorem Ty.ends_readSize (n : Node) : Ends (Ty.readSize n) (fun _ => True) Report.Proper := by
  unfold Ty.readSize
  split
  · exact .ite (fun _ => trivial) fun _ => Complaint.report_proper _ _
  · exact Complaint.report_proper _ _

theorem Fault.Proper.isUserFault : ∀ {f : Fault}, f.Proper → f.isUserFault = true
  | .reported _ _, _ => rfl

theorem Ty.ends_read (n : Node) : Ends (Ty.read n) (fun t => t.isComplete = true) Report.Proper := by
  fun_induction Ty.read n with
  | case1 => rfl
  | case3 _ _ _ _ ih => exact ih.map fun t complete => complete
  | case4 _ _ _ _ ih =>
    refine ih.map fun t complete => ?_
    cases t with
    | missing => cases complete
    | base | pointer | array => exact complete
  | case6 _ _ size _ _ ih => exact .bind (Ty.ends_readSize size) fun _ _ => ih.bind fun t complete => complete
  | case2 | case5 | case7 | case8 => exact Complaint.report_proper _ _

namespace Definition

variable {α β : Type} {done : β → Prop}

theorem ends_refuse {done : α → Prop} (c : Complaint) (n : Node) :
    Ends (refuse c n : Except Report α) done Report.Proper := c.report_proper _

theorem ends_refuse_bind (c : Complaint) (n : Node) (f : α → Except Report β) :
    Ends (refuse c n >>= f) done Report.Proper := c.report_proper _

theorem ends_readAttributes (ns : List Node) : Ends (readAttributes ns) (fun _ => True) Report.Proper := by
  induction ns with
  | nil => trivial
  | cons n ns ih =>
    refine .ite (fun _ => ends_refuse_bind _ _ _) fun _ => ih.bind fun _ _ => trivial

theorem ends_readParam (n : Node) : Ends (readParam n) (fun _ => True) Report.Proper := by
  unfold readParam
  split
  · split
    · exact ends_refuse _ _
    · refine (Ty.ends_read _).bind fun t _ => .ite (fun _ => ends_refuse_bind _ _ _) fun _ => trivial
  · exact ends_refuse _ _

theorem ends_readParams (ns : List Node) : Ends (readParams ns) (fun _ => True) Report.Proper := by
  induction ns with
  | nil => trivial
  | cons n ns ih =>
    refine .ite (fun _ => .ite (fun _ => ends_refuse_bind _ _ _) fun _ => trivial) fun _ => ?_
    exact (ends_readParam n).bind fun _ _ => ih.bind fun _ _ => trivial

theorem ends_readReturnType (n : Node) : Ends (readReturnType n) (fun _ => True) Report.Proper :=
  (Ty.ends_read n).bind fun _ _ => .ite (fun _ => ends_refuse_bind _ _ _) fun _ => trivial

theorem ends_readSignature (name : String) (fn : Node) (linkage : Linkage) (attributes : List String)
    (ns : List Node) : Ends (readSignature name fn linkage attributes ns) (fun _ => True) Report.Proper := by
  unfold readSignature
  split
  · exact (ends_readReturnType _).bind fun _ _ => (ends_readParams _).bind fun _ _ => trivial
  · exact ends_refuse _ _

theorem ends_readFunction (name : String) (fn : Node) :
    Ends (readFunction name fn) (fun _ => True) Report.Proper := by
  unfold readFunction
  split
  · split
    · exact ends_refuse _ _
    · refine .ite (fun _ => ?_) fun _ => ends_readSignature _ _ _ _ _
      exact (ends_readAttributes _).bind fun _ _ => ends_readSignature _ _ _ _ _
  · exact ends_refuse _ _

theorem ends_read (n : Node) : Ends (read n) (fun _ => True) Report.Proper := by
  unfold read
  refine .ite (fun _ => ends_refuse_bind _ _ _) fun _ => ?_
  split
  · split
    · exact (ends_readFunction _ _).bind fun _ _ => trivial
    · exact ends_refuse _ _
  · exact ends_refuse _ _

end Definition

theorem Token.proper_scanRun (source : String) (p : Position) (run : List Char) (next : Cursor) :
    ∀ r ∈ (Token.scanRun source p run next).report, r.Proper := by
  unfold Token.scanRun
  dsimp only
  split
  · split
    · simp
    · intro r reported
      obtain rfl := Option.mem_some.mp reported
      exact Complaint.report_proper _ _
  · simp

theorem Token.proper_scanHere (source : String) (c : Cursor) :
    ∀ r ∈ (Token.scanHere source c).report, r.Proper := by
  unfold Token.scanHere
  split
  · simp
  · split
    · simp
    · split
      · simp
      · split
        · simp
        · split
          · simp
          · exact Token.proper_scanRun _ _ _ _

theorem Token.proper_scanFrom (source : String) (c : Cursor) :
    ∀ s ∈ Token.scanFrom source c, ∀ r ∈ s.report, r.Proper := by
  fun_induction Token.scanFrom source c with
  | case1 c s ends =>
    intro t inside
    obtain rfl := List.mem_singleton.mp inside
    exact Token.proper_scanHere source _
  | case2 c s more ih =>
    intro t inside
    rcases List.mem_cons.mp inside with rfl | inside
    · exact Token.proper_scanHere source _
    · exact ih t inside

namespace Node.Reader

theorem reports_place (r : Reader) (n : Node) : (r.place n).reports = r.reports := by
  unfold place
  split <;> rfl

theorem proper_step {r : Reader} (h : ∀ x ∈ r.reports, x.Proper) (t : Token) :
    ∀ x ∈ (r.step t).reports, x.Proper := by
  unfold step
  split
  · exact h
  · exact h
  · exact h
  · exact h
  · split
    · exact Complaint.proper_append h _ _
    · rw [reports_place]
      exact h
  · rw [reports_place]
    exact h

theorem proper_run (tokens : List Token) : ∀ x ∈ (run tokens).reports, x.Proper := by
  have all (r : Reader) (h : ∀ x ∈ r.reports, x.Proper) : ∀ x ∈ (tokens.foldl step r).reports, x.Proper := by
    induction tokens generalizing r with
    | nil => exact h
    | cons t ts ih => exact ih _ (proper_step h t)
  exact all {} (by simp)

theorem proper_finish {r : Reader} (h : ∀ x ∈ r.reports, x.Proper) : ∀ x ∈ r.finish, x.Proper := by
  unfold finish
  split
  · split
    · exact h
    · exact Complaint.proper_append h _ _
  · exact h

end Node.Reader

theorem Node.proper_read (source input : String) : ∀ r ∈ (Node.read source input).reports, r.Proper := by
  intro r inside
  rcases List.mem_append.mp inside with scanned | read
  · obtain ⟨s, member, reported⟩ := List.mem_filterMap.mp scanned
    exact Token.proper_scanFrom source _ s member r reported
  · exact Reader.proper_finish (Reader.proper_run _) r read

end FormCompiler
