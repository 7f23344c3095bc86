import FormCompiler.Database.Connection.Basic

namespace FormCompiler.Database

inductive Flow (σ : Type) where
  | more (s : σ)
  | done (s : σ)

namespace Flow

def state {σ : Type} : Flow σ → σ
  | more s | done s => s

end Flow

structure Stream (α : Type) where
  fold : {σ : Type} → (σ → α → Work (Flow σ)) → σ → Work (Flow σ)

namespace Stream

variable {α : Type}

def empty : Stream α := ⟨fun _ s => return .more s⟩

def one (a : α) : Stream α := ⟨fun f s => f s a⟩

def foldArray {α σ : Type} (f : σ → α → Work (Flow σ)) (as : Array α) : Nat → Nat → σ → Work (Flow σ)
  | 0, _, s => return .more s
  | fuel + 1, i, s =>
    if h : i < as.size then do
      match ← f s as[i] with
      | .more s => foldArray f as fuel (i + 1) s
      | .done s => return .done s
    else return .more s

def ofArray (as : Array α) : Stream α := ⟨fun f s => foldArray f as as.size 0 s⟩

def after {α β : Type} (x : Work β) (rows : β → Stream α) : Stream α := ⟨fun f s => do (rows (← x)).fold f s⟩

def failing (x : Work Unit) : Stream α := after x fun _ => empty

def append (a b : Stream α) : Stream α where
  fold f s := do
    match ← a.fold f s with
    | .more s => b.fold f s
    | .done s => return .done s

def concat (streams : List (Stream α)) : Stream α := streams.foldr append empty

def bind {α β : Type} (a : Stream α) (rows : α → Stream β) : Stream β :=
  ⟨fun f s => a.fold (fun s x => (rows x).fold f s) s⟩

def mapM {α β : Type} (a : Stream α) (g : α → Work β) : Stream β := ⟨fun f s => a.fold (fun s x => do f s (← g x)) s⟩

def map {α β : Type} (a : Stream α) (g : α → β) : Stream β := ⟨fun f s => a.fold (fun s x => f s (g x)) s⟩

variable (a : Stream α)

def filterM (p : α → Work Bool) : Stream α :=
  ⟨fun f s => a.fold (fun s x => do if ← p x then f s x else return .more s) s⟩

def scan {α β τ : Type} (a : Stream α) (start : τ) (step : τ → α → Work (τ × Option β)) : Stream β where
  fold f s := do
    let result ← a.fold (fun ((t, s) : τ × _) x => do
      let (t, b) ← step t x
      match b with
      | none => return .more (t, s)
      | some b =>
        match ← f s b with
        | .more s => return .more (t, s)
        | .done s => return .done (t, s)) (start, s)
    match result with
    | .more (_, s) => return .more s
    | .done (_, s) => return .done s

def take (n : Nat) : Stream α where
  fold f s := do
    if n = 0 then return .more s
    let result ← a.fold (fun ((k, s, stopped) : Nat × _ × Bool) x => do
      match ← f s x with
      | .done s => return .done (k, s, true)
      | .more s => if k ≤ 1 then return .done (0, s, false) else return .more (k - 1, s, stopped)) (n, s, false)
    match result with
    | .done (_, s, true) => return .done s
    | r => return .more r.state.2.1

def drop (n : Nat) : Stream α :=
  if n = 0 then a else a.scan n fun k x => return if k = 0 then (0, some x) else (k - 1, none)

def toArray : Work (Array α) := do
  return (← a.fold (fun (xs : Array α) x => return .more (xs.push x)) #[]).state

def first? : Work (Option α) := do
  return (← a.fold (fun _ x => return .done (some x)) none).state

end Stream

end FormCompiler.Database
