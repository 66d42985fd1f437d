import Mathlib.Logic.Relation

/-!
# Programs that make requests, between the actions of others

A `Prog` is a sequential program: it makes requests and goes on with their answers.  A `System` says
which answers a request can get, what it does to the shared world, and what other parties may do to the
world between two requests.  A program that is started again and again runs by `Step`, one that is
started once by `StepOnce`.

`Safe` is the proof rule for such a program: a condition on a state and the rest of the program that
covers every interleaving.  Its rules follow the program (`Safe.ret`, `Safe.call`, `Safe.bind`,
`Safe.forM`, `Safe.foldlM`), each with an assertion that the other parties keep (`System.Stable`), and
`Safe.reachable` and `Safe.runsOnce` carry it along whole runs; `Safe.ends` is for termination.
-/

namespace NetworkEnforcer.Lib

/-- A program with requests `Req`, answered in `Resp`, and result `α`. -/
inductive Prog {Req : Type} (Resp : Req → Type) (α : Type) where
  | ret (a : α)
  | call (r : Req) (k : Resp r → Prog Resp α)

namespace Prog

variable {Req : Type} {Resp : Req → Type} {α β : Type}

def bind : Prog Resp α → (α → Prog Resp β) → Prog Resp β
  | ret a, f => f a
  | call r k, f => call r fun x => (k x).bind f

instance : Monad (Prog Resp) where
  pure := ret
  bind := bind

/-- One request, with its answer as the result. -/
def ask (r : Req) : Prog Resp (Resp r) := call r ret

end Prog

/-- The world that requests and other parties act on. -/
structure System {Req : Type} (Resp : Req → Type) (World : Type) where
  /-- The request may be answered so, with this effect. -/
  exec (r : Req) (w : World) (x : Resp r) (w' : World) : Prop
  /-- What another party may do at any time. -/
  env (w w' : World) : Prop

namespace System

variable {Req : Type} {Resp : Req → Type} {World : Type} {α : Type}

/-- An assertion that the other parties keep. -/
def Stable (S : System Resp World) (P : World → Prop) : Prop := ∀ ⦃w w'⦄, P w → S.env w w' → P w'

/-- One step of a program that is started again whenever it has ended. -/
inductive Step (S : System Resp World) (body : Prog Resp α) :
    World × Prog Resp α → World × Prog Resp α → Prop
  | env {w w' : World} {p : Prog Resp α} : S.env w w' → Step S body (w, p) (w', p)
  | call {w w' : World} {r : Req} {k : Resp r → Prog Resp α} {x : Resp r} :
    S.exec r w x w' → Step S body (w, .call r k) (w', k x)
  | restart {w : World} {a : α} : Step S body (w, .ret a) (w, body)

/-- A run of any number of steps. -/
def Runs (S : System Resp World) (body : Prog Resp α) :
    World × Prog Resp α → World × Prog Resp α → Prop :=
  Relation.ReflTransGen (S.Step body)

lemma Runs.env {S : System Resp World} {body p : Prog Resp α} {c : World × Prog Resp α} {w w' : World}
    (h : S.Runs body c (w, p)) (hstep : S.env w w') : S.Runs body c (w', p) :=
  h.tail (.env hstep)

lemma Runs.ask {S : System Resp World} {body : Prog Resp α} {c : World × Prog Resp α} {w w' : World} {r : Req}
    {f : Resp r → Prog Resp α} {x : Resp r} (h : S.Runs body c (w, Prog.ask r >>= f)) (hx : S.exec r w x w') :
    S.Runs body c (w', f x) :=
  h.tail (.call hx)

/-- The first request of a program that goes on with another one. -/
lemma Runs.ask_bind {β : Type} {S : System Resp World} {body : Prog Resp α} {c : World × Prog Resp α} {w w' : World}
    {r : Req} {g : Resp r → Prog Resp β} {f : β → Prog Resp α} {x : Resp r}
    (h : S.Runs body c (w, (Prog.ask r >>= g) >>= f)) (hx : S.exec r w x w') :
    S.Runs body c (w', g x >>= f) :=
  h.tail (.call hx)

/-- One step of a program that is started once; a run of such steps can end anywhere. -/
inductive StepOnce (S : System Resp World) : World × Prog Resp α → World × Prog Resp α → Prop
  | env {w w' : World} {p : Prog Resp α} : S.env w w' → StepOnce S (w, p) (w', p)
  | call {w w' : World} {r : Req} {k : Resp r → Prog Resp α} {x : Resp r} :
    S.exec r w x w' → StepOnce S (w, .call r k) (w', k x)

def RunsOnce (S : System Resp World) : World × Prog Resp α → World × Prog Resp α → Prop :=
  Relation.ReflTransGen S.StepOnce

lemma Stable.reflTransGen {S : System Resp World} {P : World → Prop} (h : S.Stable P) {w w' : World}
    (hw : P w) (hs : Relation.ReflTransGen S.env w w') : P w' := by
  induction hs with
  | refl => exact hw
  | tail _ hstep ih => exact h ih hstep

end System

/-! ## The proof rule -/

section Safe

variable {Req : Type} {Resp : Req → Type} {World : Type} {α β : Type}
variable (S : System Resp World) (inv : World → Prop) (pre : Req → World → Prop)

/-- From the world `w` on, whatever the other parties do: `inv` holds at every moment, `pre` holds of
every request when it is made, and `Q` holds from the end of the program on. -/
def Safe (Q : α → World → Prop) : Prog Resp α → World → Prop
  | .ret a, w => ∀ w', Relation.ReflTransGen S.env w w' → inv w' ∧ Q a w'
  | .call r k, w => ∀ w', Relation.ReflTransGen S.env w w' →
      inv w' ∧ pre r w' ∧ ∀ x w'', S.exec r w' x w'' → Safe Q (k x) w''

variable {S inv pre} {Q : α → World → Prop}

namespace Safe

lemma env {p : Prog Resp α} {w w' : World} (h : Safe S inv pre Q p w) (hs : S.env w w') :
    Safe S inv pre Q p w' := by
  cases p with
  | ret a => exact fun w'' hw'' => h w'' (hw''.head hs)
  | call r k => exact fun w'' hw'' => h w'' (hw''.head hs)

lemma inv_holds {p : Prog Resp α} {w : World} (h : Safe S inv pre Q p w) : inv w := by
  cases p with
  | ret a => exact (h w .refl).1
  | call r k => exact (h w .refl).1

lemma mono {p : Prog Resp α} {Q' : α → World → Prop} {w : World} (h : Safe S inv pre Q p w)
    (hQ : ∀ a w, Q a w → Q' a w) : Safe S inv pre Q' p w := by
  induction p generalizing w with
  | ret a => exact fun w' hs => ⟨(h w' hs).1, hQ a w' (h w' hs).2⟩
  | call r k ih =>
    intro w' hs
    obtain ⟨h1, h2, h3⟩ := h w' hs
    exact ⟨h1, h2, fun x w'' hx => ih x (h3 x w'' hx)⟩

lemma ret {P : World → Prop} (hP : S.Stable P) {a : α} {w : World} (hw : P w)
    (h : ∀ w, P w → inv w ∧ Q a w) : Safe S inv pre Q (.ret a) w :=
  fun w' hs => h w' (hP.reflTransGen hw hs)

lemma call {P : World → Prop} (hP : S.Stable P) {r : Req} {k : Resp r → Prog Resp α} {w : World}
    (hw : P w) (hinv : ∀ w, P w → inv w ∧ pre r w)
    (h : ∀ w x w', P w → S.exec r w x w' → Safe S inv pre Q (k x) w') :
    Safe S inv pre Q (.call r k) w := by
  intro w' hs
  have hw' : P w' := hP.reflTransGen hw hs
  exact ⟨(hinv w' hw').1, (hinv w' hw').2, fun x w'' hx => h w' x w'' hw' hx⟩

lemma bind {p : Prog Resp α} {f : α → Prog Resp β} {Q' : β → World → Prop} {w : World}
    (hp : Safe S inv pre Q p w) (hf : ∀ a w, Q a w → Safe S inv pre Q' (f a) w) :
    Safe S inv pre Q' (p.bind f) w := by
  induction p generalizing w with
  | ret a => exact hf a w (hp w .refl).2
  | call r k ih =>
    intro w' hs
    obtain ⟨h1, h2, h3⟩ := hp w' hs
    exact ⟨h1, h2, fun x w'' hx => ih x (h3 x w'' hx)⟩

/-- One request in front of the rest. -/
lemma ask_bind {P : World → Prop} (hP : S.Stable P) {r : Req} {f : Resp r → Prog Resp α} {w : World}
    (hw : P w) (hinv : ∀ w, P w → inv w ∧ pre r w)
    (h : ∀ w x w', P w → S.exec r w x w' → Safe S inv pre Q (f x) w') :
    Safe S inv pre Q (Prog.ask r >>= f) w :=
  call hP hw hinv h

/-- A loop: `I` holds in front of every turn, of the elements still to come. -/
lemma forM {I : List β → World → Prop} (hstable : S.Stable (I [])) (hI : ∀ w, I [] w → inv w)
    {f : β → Prog Resp PUnit} (xs : List β) :
    (∀ x ∈ xs, ∀ rest w, I (x :: rest) w → Safe S inv pre (fun _ => I rest) (f x) w) →
      ∀ {w : World}, I xs w → Safe S inv pre (fun _ => I []) (xs.forM f) w := by
  induction xs with
  | nil => exact fun _ w hw => ret hstable hw fun w h => ⟨hI w h, h⟩
  | cons x xs ih =>
    intro hstep w hw
    refine bind (hstep x (List.mem_cons_self ..) xs w hw) fun _ w' hw' => ?_
    exact ih (fun y hy => hstep y (List.mem_cons_of_mem _ hy)) hw'

/-- A loop with an accumulator. -/
lemma foldlM {γ : Type} {I : List β → γ → World → Prop} (hstable : ∀ c, S.Stable (I [] c))
    (hI : ∀ c w, I [] c w → inv w) {f : γ → β → Prog Resp γ} (xs : List β) :
    (∀ x ∈ xs, ∀ rest c w, I (x :: rest) c w → Safe S inv pre (fun c' => I rest c') (f c x) w) →
      ∀ {c : γ} {w : World}, I xs c w →
        Safe S inv pre (fun c' => I [] c') (xs.foldlM f c) w := by
  induction xs with
  | nil => exact fun _ c w hw => ret (hstable c) hw fun w h => ⟨hI c w h, h⟩
  | cons x xs ih =>
    intro hstep c w hw
    rw [List.foldlM_cons]
    refine bind (hstep x (List.mem_cons_self ..) xs c w hw) fun c' w' hw' => ?_
    exact ih (fun y hy => hstep y (List.mem_cons_of_mem _ hy)) hw'

/-- **Whole runs are safe**, if the program can be started safely wherever it may end. -/
theorem reachable {body : Prog Resp α} (hbody : ∀ a w, Q a w → Safe S inv pre Q body w)
    {w w' : World} {p p' : Prog Resp α} (h : Safe S inv pre Q p w)
    (hrun : S.Runs body (w, p) (w', p')) : Safe S inv pre Q p' w' := by
  have key : ∀ c : World × Prog Resp α, S.Runs body (w, p) c → Safe S inv pre Q c.2 c.1 := by
    intro c hc
    induction hc with
    | refl => exact h
    | tail _ hstep ih =>
      cases hstep with
      | env hs => exact ih.env hs
      | call hx => exact (ih _ .refl).2.2 _ _ hx
      | restart => exact hbody _ _ (ih _ .refl).2
  exact key (w', p') hrun

/-- **A run of one start is safe**, wherever it ends. -/
theorem runsOnce {c c' : World × Prog Resp α} (h : Safe S inv pre Q c.2 c.1)
    (hrun : S.RunsOnce c c') : Safe S inv pre Q c'.2 c'.1 := by
  induction hrun with
  | refl => exact h
  | tail _ hstep ih =>
    cases hstep with
    | env hs => exact ih.env hs
    | call hx => exact (ih _ .refl).2.2 _ _ hx

/-- **A safe program ends**, if its requests are answered. -/
theorem ends {p : Prog Resp α} {w : World} (h : Safe S inv pre Q p w)
    (hans : ∀ r w, inv w → pre r w → ∃ x w', S.exec r w x w') : ∃ a w', S.RunsOnce (w, p) (w', .ret a) := by
  induction p generalizing w with
  | ret a => exact ⟨a, w, .refl⟩
  | call r k ih =>
    obtain ⟨hinv, hpre, hnext⟩ := h w .refl
    obtain ⟨x, w', hx⟩ := hans r w hinv hpre
    obtain ⟨a, w'', hrun⟩ := ih x (hnext x w' hx)
    exact ⟨a, w'', hrun.head (.call hx)⟩

lemma post {a : α} {w : World} (h : Safe S inv pre Q (.ret a) w) : Q a w := (h w .refl).2

lemma request {r : Req} {k : Resp r → Prog Resp α} {w : World}
    (h : Safe S inv pre Q (.call r k) w) : pre r w :=
  (h w .refl).2.1

end Safe

end Safe

end NetworkEnforcer.Lib
