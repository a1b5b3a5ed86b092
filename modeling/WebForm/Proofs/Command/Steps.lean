/-
What the steps of a run come to. They write on the screen but never read it, so what a step comes to is the same
whatever was printed before. Steps that print go through exactly if every text can be printed, and are cut short
otherwise; so does what is put together from such steps, one after another or once for each member of a list. The exit
code of a run follows from what its steps come to.
-/
import WebForm.Command.Run
import WebForm.Proofs.Terminal.Failures

namespace WebForm.Command

variable {α β : Type}

/-- Whether a text with style tags can be printed. -/
def Libraries.Prints (lib : Libraries) (s : String) : Prop := (lib.line? s).isSome = true

/-! ## Outcomes -/

/-- A step that has one outcome, whatever is on the screen. -/
def Gives (x : Running α) (r : Except Ending α) : Prop := ∀ s, (x.run.run s).1 = r

namespace Gives

variable {x : Running α} {f : α → Running β}

theorem pure (a : α) : Gives (pure a : Running α) (.ok a) := fun _ => rfl

theorem exit (code : Nat) : Gives (exit code : Running α) (.error (.exit code)) := fun _ => rfl

theorem crash (c : Crash) : Gives (crash c : Running α) (.error (.crash c)) := fun _ => rfl

theorem echo (text : String) : Gives (echo text) (.ok ()) := fun _ => rfl

theorem display {printed : Option String} (h : printed.isSome = true) : Gives (display printed) (.ok ()) := by
  obtain ⟨text, rfl⟩ := Option.isSome_iff_exists.1 h
  exact echo text

theorem print {lib : Libraries} {s : String} (h : lib.Prints s) : Gives (print lib s) (.ok ()) := display h

/-- After a step that was done the next one decides. -/
theorem bind {a : α} {r : Except Ending β} (hx : Gives x (.ok a)) (hf : Gives (f a) r) : Gives (x >>= f) r := by
  intro s
  have hx := hx s
  rw [ExceptT.run_bind, StateT.run_bind]
  generalize x.run.run s = p at hx ⊢
  obtain ⟨_, s'⟩ := p
  cases hx
  exact hf s'

/-- After a step that ended the run no other one is taken. -/
theorem bind_error {e : Ending} (hx : Gives x (.error e)) : Gives (x >>= f) (.error e) := by
  intro s
  have hx := hx s
  rw [ExceptT.run_bind, StateT.run_bind]
  generalize x.run.run s = p at hx ⊢
  obtain ⟨_, s'⟩ := p
  cases hx
  rfl

theorem result_of_ok {a : α} (h : Gives x (.ok a)) : x.result.code = 0 ∧ x.result.crash = none := by
  have h := h ⟨"", none⟩
  unfold Running.result
  generalize x.run.run ⟨"", none⟩ = p at h ⊢
  obtain ⟨_, s⟩ := p
  cases h
  exact ⟨rfl, rfl⟩

theorem result_of_exit {code : Nat} (h : Gives x (.error (.exit code))) :
    x.result.code = code ∧ x.result.crash = none := by
  have h := h ⟨"", none⟩
  unfold Running.result
  generalize x.run.run ⟨"", none⟩ = p at h ⊢
  obtain ⟨_, s⟩ := p
  cases h
  exact ⟨rfl, rfl⟩

theorem result_of_crash {c : Crash} (h : Gives x (.error (.crash c))) : x.result.code = 1 ∧ x.result.crash = some c := by
  have h := h ⟨"", none⟩
  unfold Running.result
  generalize x.run.run ⟨"", none⟩ = p at h ⊢
  obtain ⟨_, s⟩ := p
  cases h
  exact ⟨rfl, rfl⟩

end Gives

/-! ## Steps that print -/

/-- A step that is done exactly if `p` holds, and otherwise is cut short by a text that cannot be printed. -/
structure GoesThrough (p : Prop) (x : Running α) : Prop where
  done : p → ∃ a, Gives x (.ok a)
  cut : ¬p → Gives x (.error (.crash .markup))

namespace GoesThrough

variable {p q : Prop} {x : Running α}

theorem of_gives {a : α} (h : Gives x (.ok a)) : GoesThrough True x :=
  ⟨fun _ => ⟨a, h⟩, fun hp => absurd trivial hp⟩

theorem congr (h : GoesThrough p x) (hpq : p ↔ q) : GoesThrough q x :=
  ⟨fun hq => h.done (hpq.2 hq), fun hq => h.cut (mt hpq.1 hq)⟩

theorem bind {f : α → Running β} (hx : GoesThrough p x) (hf : ∀ a, GoesThrough q (f a)) :
    GoesThrough (p ∧ q) (x >>= f) := by
  constructor
  · rintro ⟨hp, hq⟩
    obtain ⟨a, ha⟩ := hx.done hp
    obtain ⟨b, hb⟩ := (hf a).done hq
    exact ⟨b, ha.bind hb⟩
  · intro hpq
    by_cases hp : p
    · obtain ⟨a, ha⟩ := hx.done hp
      exact ha.bind ((hf a).cut fun hq => hpq ⟨hp, hq⟩)
    · exact (hx.cut hp).bind_error

/-- A step that is always done in front of another one makes no difference. -/
theorem after {a : α} {f : α → Running β} (hx : Gives x (.ok a)) (hf : GoesThrough q (f a)) :
    GoesThrough q (x >>= f) := by
  constructor
  · intro hq
    obtain ⟨b, hb⟩ := hf.done hq
    exact ⟨b, hx.bind hb⟩
  · intro hq
    exact hx.bind (hf.cut hq)

/-- A step for each member of a list goes through if all of them do. -/
theorem forM {l : List α} {f : α → Running PUnit} {p : α → Prop} (h : ∀ a ∈ l, GoesThrough (p a) (f a)) :
    GoesThrough (∀ a ∈ l, p a) (l.forM f) := by
  induction l with
  | nil => exact (of_gives (Gives.pure _)).congr (iff_of_true trivial (List.forall_mem_nil _))
  | cons a l ih =>
    obtain ⟨ha, hl⟩ := List.forall_mem_cons.1 h
    exact (ha.bind fun _ => ih hl).congr List.forall_mem_cons.symm

theorem display (printed : Option String) : GoesThrough (printed.isSome = true) (display printed) := by
  cases printed with
  | none => exact ⟨fun h => absurd h Bool.false_ne_true, fun _ => Gives.crash .markup⟩
  | some text => exact ⟨fun _ => ⟨(), Gives.echo text⟩, fun h => absurd rfl h⟩

theorem print (lib : Libraries) (s : String) : GoesThrough (lib.Prints s) (print lib s) := display (lib.line? s)

end GoesThrough

/-! ## Exit codes -/

/-- The exit code of an outcome. -/
def codeOf : Except Ending α → Nat
  | .ok _ => 0
  | .error (.exit code) => code
  | .error (.crash _) => exitInvalid

/-- A run that ended with a code exactly under a condition, and otherwise was cut short with the code of what is not
valid. -/
structure Faithful (r : Result) (code : Nat) (condition : Prop) : Prop where
  code_iff : r.code = code ↔ condition
  cut : ¬condition → r.code = exitInvalid ∧ r.crash.isSome = true

/-- Steps that come to a code if `p` holds, and otherwise are cut short with another one. -/
structure Ends (code : Nat) (p : Prop) (x : Running α) : Prop where
  reached : p → ∃ r, Gives x r ∧ codeOf r = code
  cut : ¬p → code ≠ exitInvalid ∧ ∃ c, Gives x (.error (.crash c))

namespace Ends

variable {code : Nat} {p q : Prop} {x : Running α}

theorem of_gives {r : Except Ending α} (h : Gives x r) : Ends (codeOf r) True x :=
  ⟨fun _ => ⟨r, h, rfl⟩, fun hp => absurd trivial hp⟩

theorem of_goesThrough (h : GoesThrough p x) : Ends 0 p x := by
  constructor
  · intro hp
    obtain ⟨a, ha⟩ := h.done hp
    exact ⟨_, ha, rfl⟩
  · intro hp
    exact ⟨by decide, _, h.cut hp⟩

theorem congr (h : Ends code p x) (hpq : p ↔ q) : Ends code q x :=
  ⟨fun hq => h.reached (hpq.2 hq), fun hq => h.cut (mt hpq.1 hq)⟩

/-- A step that is always done in front of a run makes no difference. -/
theorem after {a : α} {f : α → Running β} (hx : Gives x (.ok a)) (h : Ends code p (f a)) : Ends code p (x >>= f) := by
  constructor
  · intro hp
    obtain ⟨r, hr, hcode⟩ := h.reached hp
    exact ⟨r, hx.bind hr, hcode⟩
  · intro hp
    obtain ⟨hne, c, hc⟩ := h.cut hp
    exact ⟨hne, c, hx.bind hc⟩

/-- A code other than zero is final. -/
theorem bind {f : α → Running β} (h : Ends code p x) (hcode : code ≠ 0) : Ends code p (x >>= f) := by
  constructor
  · intro hp
    obtain ⟨r, hr, rfl⟩ := h.reached hp
    cases r with
    | ok a => exact absurd rfl hcode
    | error e =>
      refine ⟨_, hr.bind_error, ?_⟩
      cases e <;> rfl
  · intro hp
    obtain ⟨hne, c, hc⟩ := h.cut hp
    exact ⟨hne, c, hc.bind_error⟩

/-- Whatever is printed in front of a run that ends as not valid makes no difference, as what it cuts short ends so
too. -/
theorem after_printed {f : α → Running β} (hx : GoesThrough q x) (h : ∀ a, Ends exitInvalid True (f a)) :
    Ends exitInvalid True (x >>= f) := by
  by_cases hq : q
  · obtain ⟨a, ha⟩ := hx.done hq
    exact .after ha (h a)
  · exact of_gives (hx.cut hq).bind_error

theorem faithful (h : Ends code p x) : Faithful x.result code p := by
  have hcut : ¬p → x.result.code = exitInvalid ∧ x.result.crash.isSome = true := by
    intro hp
    obtain ⟨-, c, hc⟩ := h.cut hp
    obtain ⟨hcode, hcrash⟩ := hc.result_of_crash
    exact ⟨hcode, by rw [hcrash]; rfl⟩
  refine ⟨⟨fun hcode => ?_, fun hp => ?_⟩, hcut⟩
  · by_contra hp
    exact (h.cut hp).1 (hcode.symm.trans (hcut hp).1)
  · obtain ⟨r, hr, rfl⟩ := h.reached hp
    rcases r with (code | c) | a
    · exact hr.result_of_exit.1
    · exact hr.result_of_crash.1
    · exact hr.result_of_ok.1

end Ends

end WebForm.Command
