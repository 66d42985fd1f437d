import Mathlib.Logic.Function.Basic
import NetworkEnforcer.Api.Errors
import NetworkEnforcer.Lib.GoMap
import NetworkEnforcer.Lib.Program
import NetworkEnforcer.Lib.Strconv

/-!
# Checkpoints on disk (`internal/tailer/persister.go`)

A method holds the mutex from start to end, so that the methods run one after the other.  Each is a
program whose requests are accesses to the map in memory and calls that touch the disk, and a crash is
the end of a run between any two of them.  A write that fails, or is cut short, leaves anything in the
temporary file; a rename replaces its target at once or fails.

Memory, temporary file and checkpoint file can hold three different maps.  The history `World.saved` is
the map that was in memory at the last successful rename.

* `flush_safe` — what a flush leaves behind, wherever it stops;
* `call_safe` — so do the methods, each after its change to the map in memory;
* `checkpoints_survive` — at every moment of a run the checkpoint file loads as `saved`, and after a
  method without an error as the map in memory.
-/

namespace NetworkEnforcer.Tailer

open NetworkEnforcer.Lib NetworkEnforcer.Api

/-- A `[]byte`; `none` is the nil slice. -/
abbrev Slice : Type := Option (List UInt8)

/-- The map of the store. -/
abbrev Data : Type := GoMap String Slice

/-- The same keys with the same values. -/
def SameMap (d d' : Data) : Prop := ∀ k, d.lookup k = d'.lookup k

/-- `encoding/json` on the map of the store; `Raw` is the content of a file. -/
structure Json (Raw : Type) where
  /-- `json.Marshal`. -/
  marshal : Data → Except Err Raw
  /-- `json.Unmarshal` into an empty map; the literal `null` leaves a nil map. -/
  unmarshal : Raw → Except Err (Option Data)
  /-- The test `len(raw) == 0`. -/
  isEmpty : Raw → Bool
  marshal_nonempty : ∀ {d raw}, marshal d = .ok raw → isEmpty raw = false
  /-- Decoding inverts encoding. -/
  unmarshal_marshal : ∀ {d raw}, marshal d = .ok raw →
    ∃ d', unmarshal raw = .ok (some d') ∧ SameMap d' d

variable {Raw : Type}

/-! ## The code -/

/-- The answer of `os.ReadFile`. -/
inductive FileRead (Raw : Type) where
  | notExist
  | failed (err : Err)
  | ok (raw : Raw)

/-- The map of a new store, from what `os.ReadFile` answers. -/
def newFilePersister (json : Json Raw) : FileRead Raw → Except Err Data
  | .notExist => .ok ∅
  | .failed err => .error err
  | .ok raw =>
    if json.isEmpty raw then .ok ∅
    else
      match json.unmarshal raw with
      -- a corrupt file is dropped
      | .error _ => .ok ∅
      | .ok none => .ok ∅
      | .ok (some data) => .ok data

inductive Request (Raw : Type) where
  /-- The value of the field `data`. -/
  | loadData
  /-- An assignment to the field `data` or to one of its entries. -/
  | storeData (data : Data)
  /-- `os.WriteFile`. -/
  | writeFile (name : String) (raw : Raw)
  /-- `os.Rename`. -/
  | rename (oldName newName : String)

@[reducible] def Request.Resp : Request Raw → Type
  | loadData => Data
  | storeData _ => Unit
  | writeFile .. => Option Err
  | rename .. => Option Err

/-- A program of the store. -/
abbrev PersisterM (Raw : Type) (α : Type) : Type := Prog (@Request.Resp Raw) α

def ask (r : Request Raw) : PersisterM Raw r.Resp := Prog.ask r

section Methods

variable (json : Json Raw) (path : String)

def flush : PersisterM Raw (Option Err) := do
  let data ← ask .loadData
  match json.marshal data with
  | .error err => return some err
  | .ok raw =>
    let tmp := path ++ ".tmp"
    match ← ask (.writeFile tmp raw) with
    | some writeErr => return some writeErr
    | none => ask (.rename tmp path)

def reset : PersisterM Raw (Option Err) := do
  ask (.storeData ∅)
  flush json path

def set (k : String) (v : Slice) : PersisterM Raw (Option Err) := do
  let data ← ask .loadData
  ask (.storeData (data.insert k v))
  flush json path

def delete (k : String) : PersisterM Raw (Option Err) := do
  let data ← ask .loadData
  ask (.storeData (data.erase k))
  flush json path

/-- `storage.OpType`; `other` holds the values that name no operation. -/
inductive OpType where
  | get | set | delete
  | other (code : Int)
  deriving DecidableEq, Repr

/-- `storage.Operation`. -/
structure Operation where
  type : OpType
  key : String
  value : Slice := none
  deriving DecidableEq, Repr

def unknownOperationType (code : Int) : Err :=
  .other ("filePersister: unknown operation type " ++ formatInt code)

/-- The loop of `Batch`: the operations as it leaves them, and the error that stops it. -/
def batchLoop : List Operation → PersisterM Raw (List Operation × Option Err)
  | [] => return ([], none)
  | op :: ops => do
    match op.type with
    | .set =>
      let data ← ask .loadData
      ask (.storeData (data.insert op.key op.value))
      let (rest, err) ← batchLoop ops
      return (op :: rest, err)
    | .delete =>
      let data ← ask .loadData
      ask (.storeData (data.erase op.key))
      let (rest, err) ← batchLoop ops
      return (op :: rest, err)
    | .get =>
      let data ← ask .loadData
      let (rest, err) ← batchLoop ops
      return ({ op with value := (data.lookup op.key).getD none } :: rest, err)
    | .other code => return (op :: ops, some (unknownOperationType code))

def batch (ops : List Operation) : PersisterM Raw (List Operation × Option Err) := do
  match ← batchLoop ops with
  | (ops, some err) => return (ops, some err)
  | (ops, none) => return (ops, ← flush json path)

/-- A call of a method that changes the store. -/
inductive Call where
  | set (k : String) (v : Slice)
  | delete (k : String)
  | batch (ops : List Operation)
  | reset

/-- The error that a call returns. -/
def Call.run : Call → PersisterM Raw (Option Err)
  | .set k v => Tailer.set json path k v
  | .delete k => Tailer.delete json path k
  | .batch ops => do
    let (_, err) ← Tailer.batch json path ops
    return err
  | .reset => Tailer.reset json path

/-- A sequence of calls, with the error of the last one. -/
def session (calls : List Call) : PersisterM Raw (Option Err) :=
  calls.foldlM (fun _ c => c.run json path) none

end Methods

/-! ## Memory and disk -/

structure World (Raw : Type) where
  /-- The field `data`. -/
  data : Data
  files : String → Option Raw
  /-- History: the map in memory at the last successful rename, or at start-up. -/
  saved : Data

/-- What `os.ReadFile` answers when it does not fail. -/
def readFile (files : String → Option Raw) (name : String) : FileRead Raw :=
  match files name with
  | none => .notExist
  | some raw => .ok raw

/-- How a request can be answered. -/
def Answers (path : String) : (r : Request Raw) → World Raw → r.Resp → World Raw → Prop
  | .loadData, w, x, w' => x = w.data ∧ w' = w
  | .storeData data, w, _, w' => w' = { w with data := data }
  | .writeFile name raw, w, x, w' =>
    match x with
    | none => w' = { w with files := Function.update w.files name (some raw) }
    | some _ => ∃ left, w' = { w with files := Function.update w.files name left }
  | .rename oldName newName, w, x, w' =>
    match x with
    | none => ∃ raw, w.files oldName = some raw ∧
        w' = { w with
          files := Function.update (Function.update w.files newName (some raw)) oldName none
          saved := if newName = path then w.data else w.saved }
    | some _ => w' = w

/-- The store alone works on its files. -/
def system (path : String) : System (@Request.Resp Raw) (World Raw) where
  exec := Answers path
  env _ _ := False

/-- A new store loads this map from the checkpoint file. -/
def Loads (json : Json Raw) (path : String) (w : World Raw) (d : Data) : Prop :=
  ∃ d', newFilePersister json (readFile w.files path) = .ok d' ∧ SameMap d' d

/-- The world after start-up, for the files that it finds. -/
def start (json : Json Raw) (path : String) (files : String → Option Raw) : World Raw :=
  let data := ((newFilePersister json (readFile files path)).toOption).getD ∅
  { data := data, files := files, saved := data }

/-! ## What a run keeps -/

section Safety

variable {json : Json Raw} {path : String}

/-- The invariant: the checkpoint file holds the map of the last successful rename. -/
def Kept (json : Json Raw) (path : String) (w : World Raw) : Prop := Loads json path w w.saved

/-- What holds when a method ends. -/
def Done (json : Json Raw) (path : String) (err : Option Err) (w : World Raw) : Prop :=
  Kept json path w ∧ (err = none → Loads json path w w.data)

lemma stable (P : World Raw → Prop) : (system path).Stable P := fun _ _ _ h => h.elim

lemma Done.of_err {err : Err} {w : World Raw} (h : Kept json path w) : Done json path (some err) w :=
  ⟨h, fun h => nomatch h⟩

lemma tmp_ne_path (path : String) : path ++ ".tmp" ≠ path := by
  intro h
  have hlen := congrArg String.length h
  rw [String.length_append] at hlen
  have htmp : ".tmp".length = 4 := rfl
  omega

lemma Loads.congr {w w' : World Raw} {d : Data} (h : Loads json path w d)
    (hfile : w'.files path = w.files path) : Loads json path w' d := by
  obtain ⟨d', hload, hsame⟩ := h
  refine ⟨d', ?_, hsame⟩
  rw [readFile, hfile]
  exact hload

/-- A complete encoding loads as the map it encodes. -/
lemma loads_of_marshal {w : World Raw} {raw : Raw} {d : Data} (hfile : w.files path = some raw)
    (hraw : json.marshal d = .ok raw) : Loads json path w d := by
  obtain ⟨d', hdec, hsame⟩ := json.unmarshal_marshal hraw
  refine ⟨d', ?_, hsame⟩
  simp [readFile, hfile, newFilePersister, json.marshal_nonempty hraw, hdec]

/-- Writing the temporary file does not touch the checkpoint file. -/
lemma Kept.write {w : World Raw} (h : Kept json path w) (left : Option Raw) :
    Kept json path { w with files := Function.update w.files (path ++ ".tmp") left } :=
  Loads.congr h (Function.update_of_ne (tmp_ne_path path).symm left w.files)

/-- Every method keeps `Kept` at every moment and ends with `Done`. -/
abbrev SafeMethod (json : Json Raw) (path : String) (p : PersisterM Raw (Option Err))
    (w : World Raw) : Prop :=
  Safe (system path) (Kept json path) (fun _ _ => True) (Done json path) p w

/-- **A flush**, wherever it stops. -/
theorem flush_safe {w : World Raw} (h : Kept json path w) : SafeMethod json path (flush json path) w := by
  have done : ∀ {err : Option Err} {w : World Raw}, Done json path err w →
      SafeMethod json path (.ret err) w :=
    fun hdone => .ret (stable _) hdone fun _ hw => ⟨hw.1, hw⟩
  refine .ask_bind (stable _) h (fun w hw => ⟨hw, trivial⟩) ?_
  rintro w data w' hkept ⟨rfl, hw⟩
  obtain rfl : w = w' := hw.symm
  cases hraw : json.marshal w.data with
  | error err => exact done (.of_err hkept)
  | ok raw =>
    -- the write sees the map that was encoded
    refine .ask_bind (stable fun w => Kept json path w ∧ json.marshal w.data = .ok raw)
      ⟨hkept, hraw⟩ (fun w hw => ⟨hw.1, trivial⟩) ?_
    rintro w x w' ⟨hkept, hraw⟩ hans
    cases x with
    | some err =>
      obtain ⟨left, rfl⟩ := hans
      exact done (.of_err (hkept.write left))
    | none =>
      obtain rfl : w' = _ := hans
      -- and the rename the file that was written
      refine .call (stable fun w => Kept json path w ∧ json.marshal w.data = .ok raw ∧
          w.files (path ++ ".tmp") = some raw)
        ⟨hkept.write _, hraw, Function.update_self ..⟩ (fun w hw => ⟨hw.1, trivial⟩) ?_
      rintro w x w' ⟨hkept, hraw, htmp⟩ hans
      cases x with
      | some err =>
        obtain rfl : w' = w := hans
        exact done (.of_err hkept)
      | none =>
        obtain ⟨raw', hraw', rfl⟩ := hans
        obtain rfl : raw' = raw := Option.some.inj (hraw'.symm.trans htmp)
        have hfile : Function.update (Function.update w.files path (some raw')) (path ++ ".tmp") none
            path = some raw' := by
          rw [Function.update_of_ne (tmp_ne_path path).symm, Function.update_self]
        refine done ⟨?_, fun _ => loads_of_marshal hfile hraw⟩
        show Loads json path _ (if path = path then w.data else w.saved)
        rw [if_pos rfl]
        exact loads_of_marshal hfile hraw

/-- A change to the map in memory, in front of the rest of a method. -/
lemma store_safe {α : Type} {Q : α → World Raw → Prop} {data : Data} {p : PersisterM Raw α}
    {w : World Raw} (h : Kept json path w)
    (hp : ∀ w, Kept json path w →
      Safe (system path) (Kept json path) (fun _ _ => True) Q p w) :
    Safe (system path) (Kept json path) (fun _ _ => True) Q (ask (.storeData data) >>= fun _ => p) w := by
  refine .ask_bind (stable _) h (fun w hw => ⟨hw, trivial⟩) ?_
  intro w x w' hw hans
  obtain rfl : w' = { w with data := data } := hans
  exact hp _ (Loads.congr hw rfl)

lemma load_safe {α : Type} {Q : α → World Raw → Prop} {f : Data → PersisterM Raw α}
    {w : World Raw} (h : Kept json path w)
    (hf : ∀ d w, Kept json path w →
      Safe (system path) (Kept json path) (fun _ _ => True) Q (f d) w) :
    Safe (system path) (Kept json path) (fun _ _ => True) Q (ask .loadData >>= f) w := by
  refine .ask_bind (stable _) h (fun w hw => ⟨hw, trivial⟩) ?_
  rintro w x w' hw ⟨rfl, rfl⟩
  exact hf _ _ hw

/-- The loop changes memory only, also when it stops midway. -/
lemma batchLoop_safe (ops : List Operation) {w : World Raw} (h : Kept json path w) :
    Safe (system path) (Kept json path) (fun _ _ => True) (fun _ w => Kept json path w)
      (batchLoop ops) w := by
  have done : ∀ {a : List Operation × Option Err} {w : World Raw}, Kept json path w →
      Safe (system path) (Kept json path) (fun _ _ => True) (fun _ w => Kept json path w)
        (.ret a : PersisterM Raw _) w :=
    fun hw => .ret (stable _) hw fun _ hw => ⟨hw, hw⟩
  induction ops generalizing w with
  | nil => exact done h
  | cons op ops ih =>
    rw [batchLoop]
    cases op.type with
    | set =>
      refine load_safe h fun data w hw => store_safe hw fun w hw => ?_
      exact .bind (ih hw) fun _ w hw => done hw
    | delete =>
      refine load_safe h fun data w hw => store_safe hw fun w hw => ?_
      exact .bind (ih hw) fun _ w hw => done hw
    | get =>
      refine load_safe h fun data w hw => ?_
      exact .bind (ih hw) fun _ w hw => done hw
    | other code => exact done h

/-- **Every method.** -/
theorem call_safe (c : Call) {w : World Raw} (h : Kept json path w) :
    SafeMethod json path (c.run json path) w := by
  cases c with
  | set k v => exact load_safe h fun data w hw => store_safe hw fun w hw => flush_safe hw
  | delete k => exact load_safe h fun data w hw => store_safe hw fun w hw => flush_safe hw
  | reset => exact store_safe h fun w hw => flush_safe hw
  | batch ops =>
    have hbatch : Safe (system path) (Kept json path) (fun _ _ => True)
        (fun r w => Done json path r.2 w) (batch json path ops) w := by
      refine .bind (batchLoop_safe ops h) fun r w hw => ?_
      obtain ⟨ops', err⟩ := r
      cases err with
      | some err => exact .ret (stable _) (Done.of_err hw) fun _ hw => ⟨hw.1, hw⟩
      | none =>
        exact .bind (flush_safe hw) fun err w hdone =>
          .ret (stable _) hdone fun _ hw => ⟨hw.1, hw⟩
    exact .bind hbatch fun r w hdone => .ret (stable _) hdone fun _ hw => ⟨hw.1, hw⟩

lemma session_safe (calls : List Call) {err : Option Err} {w : World Raw} (h : Done json path err w) :
    Safe (system path) (Kept json path) (fun _ _ => True) (Done json path)
      (calls.foldlM (fun _ c => c.run json path) err) w :=
  Safe.foldlM (I := fun _ err w => Done json path err w) (fun _ => stable _) (fun _ _ h => h.1) calls
    (fun c _ _ _ _ hdone => call_safe c hdone.1) h

lemma exists_load (json : Json Raw) (path : String) (files : String → Option Raw) :
    ∃ d, newFilePersister json (readFile files path) = .ok d := by
  cases hfile : files path with
  | none => exact ⟨∅, by simp [readFile, hfile, newFilePersister]⟩
  | some raw =>
    rw [readFile, hfile]
    show ∃ d, newFilePersister json (.ok raw) = .ok d
    rw [newFilePersister]
    cases json.isEmpty raw with
    | true => exact ⟨∅, rfl⟩
    | false =>
      cases json.unmarshal raw with
      | error err => exact ⟨∅, rfl⟩
      | ok data =>
        cases data with
        | none => exact ⟨∅, rfl⟩
        | some data => exact ⟨data, rfl⟩

lemma done_start (files : String → Option Raw) :
    Done json path none (start json path files) := by
  obtain ⟨d, hd⟩ := exists_load json path files
  have hload : Loads json path (start json path files) (start json path files).data := by
    refine ⟨d, hd, fun k => ?_⟩
    show d.lookup k = ((newFilePersister json (readFile files path)).toOption.getD ∅).lookup k
    rw [hd]
    rfl
  exact ⟨hload, fun _ => hload⟩

end Safety

/-- **Checkpoints survive crashes and failed writes**: at every moment of every run a new store would
load the map that was in memory at the last successful rename, or at start-up, and when the last method
has returned no error, the map in memory. -/
theorem checkpoints_survive (json : Json Raw) (path : String) (files : String → Option Raw)
    (calls : List Call) {w : World Raw} {p : PersisterM Raw (Option Err)}
    (hrun : (system path).RunsOnce (start json path files, session json path calls) (w, p)) :
    Loads json path w w.saved ∧ (p = .ret none → Loads json path w w.data) := by
  have hsafe : SafeMethod json path p w :=
    Safe.runsOnce (session_safe calls (done_start files)) hrun
  refine ⟨hsafe.inv_holds, ?_⟩
  rintro rfl
  exact hsafe.post.2 rfl

/-- Files that hold the map itself, for concrete runs; `none` is the empty file. -/
def Json.plain : Json (Option Data) where
  marshal d := .ok (some d)
  unmarshal
    | none => .error (.other "unexpected end of JSON input")
    | some d => .ok (some d)
  isEmpty raw := raw.isNone
  marshal_nonempty := by
    rintro d raw ⟨⟩
    rfl
  unmarshal_marshal := by
    rintro d raw ⟨⟩
    exact ⟨d, rfl, fun _ => rfl⟩

lemma exec_storeData (path : String) (data : Data) (w : World Raw) :
    (system path).exec (.storeData data) w () { w with data := data } := rfl

lemma exec_writeFile (path name : String) (raw : Raw) (w : World Raw) :
    (system path).exec (.writeFile name raw) w none
      { w with files := Function.update w.files name (some raw) } := rfl

/-- A crash between the write and the rename of the first `Set`: the file loads as it did at start-up. -/
theorem checkpoints_survive_before_rename : ∃ (w : World (Option Data))
    (p : PersisterM (Option Data) (Option Err)),
    (system "state.json").RunsOnce
        (start Json.plain "state.json" fun _ => none, session Json.plain "state.json" [.set "k" none])
        (w, p) ∧
      (w.data.lookup "k").isSome = true ∧ (w.files "state.json.tmp").isSome = true ∧
      Loads Json.plain "state.json" w w.saved ∧ w.saved.lookup "k" = none := by
  have hrun : (system "state.json").RunsOnce
      (start Json.plain "state.json" fun _ => none, session Json.plain "state.json" [.set "k" none])
      _ :=
    .head (.call ⟨rfl, rfl⟩) <| .head (.call (exec_storeData ..)) <| .head (.call ⟨rfl, rfl⟩) <|
      .head (.call (exec_writeFile ..)) .refl
  exact ⟨_, _, hrun, rfl, rfl, (checkpoints_survive Json.plain "state.json" _ _ hrun).1, rfl⟩

end NetworkEnforcer.Tailer
