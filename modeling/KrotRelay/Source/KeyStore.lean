import KrotRelay.Lib.Bytes
import KrotRelay.Source.KeyFile

/-!
# The key registry over its file (krot-server/src/keys.rs)

`append_line`, `remove_pubkey`, `reload` and `open` as they change the file and the index,
each run without interruption. What the operating system answers is an argument. The
temporary file of `atomic_write` is written and renamed in one step.

The second half cuts the two writers where they can be interrupted: no lock is held from
the read of the file to its replacement. The last part is `append_line` on the bytes of the
file, of which the first part sees the text.
-/
namespace KrotRelay.Source
open Lib

inductive FileContents where
  | missing
  | notUtf8
  | text (contents : List Char)
  deriving DecidableEq

/-- `fs::read_to_string`, unless the system refuses. -/
def FileContents.readToString (file : FileContents) (refusal : Option String) :
    Except String (List Char) :=
  match refusal, file with
  | some detail, _ => .error detail
  | none, .missing => .error "No such file or directory (os error 2)"
  | none, .notUtf8 => .error "stream did not contain valid UTF-8"
  | none, .text contents => .ok contents

/-- `fs::read_to_string(..).unwrap_or_default()`. -/
def FileContents.readOrDefault (file : FileContents) (refusal : Option String) : List Char :=
  (file.readToString refusal).toOption.getD []

/-- How `atomic_write` ends: before the rename, between it and the directory's sync, or well. -/
inductive Written where
  | failed (detail : String)
  | unsynced (detail : String)
  | done
  deriving DecidableEq

/-- What the system answers during one call, and the iteration orders of the maps. -/
structure Io where
  refusal : Option String
  written : Written
  rereadRefusal : Option String
  removedOrder : List PubKey
  modifiedOrder : List PubKey
  deriving DecidableEq

structure KeyStore where
  file : FileContents
  keys : KeyRegistry

namespace KeyStore
variable (decode : List Char → Option (List UInt8))

def atomicWrite (store : KeyStore) (contents : List Char) :
    Written → Except ServerError Unit × KeyStore
  | .failed detail => (.error (.io detail), store)
  | .unsynced detail => (.error (.io detail), { store with file := .text contents })
  | .done => (.ok (), { store with file := .text contents })

def parseFile (file : FileContents) (refusal : Option String) :
    Except ServerError (HashMap PubKey AuthorizedEntry) :=
  match file.readToString refusal with
  | .error detail => .error (.io detail)
  | .ok text => parseText decode text

/-- The second half of `reload`: the index is replaced, then the diff is sent. -/
def swap (store : KeyStore) (updated : HashMap PubKey AuthorizedEntry)
    (removedOrder modifiedOrder : List PubKey) : KeyStore :=
  let (announced, keys) := store.keys.reload updated removedOrder modifiedOrder
  { store with keys := announced.foldl KeyRegistry.send keys }

def reload (store : KeyStore) (io : Io) : Except ServerError Unit × KeyStore :=
  match parseFile decode store.file io.rereadRefusal with
  | .error problem => (.error problem, store)
  | .ok updated => (.ok (), store.swap updated io.removedOrder io.modifiedOrder)

def appendLine (store : KeyStore) (line : List Char) (io : Io) :
    Except ServerError (List Char) × KeyStore :=
  match parseLine decode line with
  | none => (.error (.keys ("cannot parse: " ++ String.ofList line)), store)
  | some (pubkey, entry) =>
    let contents := store.file.readOrDefault io.refusal
    match store.atomicWrite (appended contents line) io.written with
    | (.error problem, store) => (.error problem, store)
    | (.ok (), store) =>
      (.ok (trimEnd line), { store with keys := store.keys.appendEntry pubkey entry })

def removePubkey (store : KeyStore) (target : PubKey) (io : Io) :
    Except ServerError Bool × KeyStore :=
  let contents := store.file.readOrDefault io.refusal
  if isNamed decode target contents then
    match store.atomicWrite (without decode target contents) io.written with
    | (.error problem, store) => (.error problem, store)
    | (.ok (), store) =>
      match store.reload decode io with
      | (.error problem, store) => (.error problem, store)
      | (.ok (), store) => (.ok true, store)
  else (.ok false, store)

/-- `open`: a missing file is created empty. The channel is a new one. -/
def «open» (file : FileContents) (io : Io) : Except ServerError KeyStore :=
  let created : Except ServerError FileContents :=
    match file, io.written with
    | .missing, .failed detail | .missing, .unsynced detail => .error (.io detail)
    | .missing, .done => .ok (.text [])
    | _, _ => .ok file
  created.bind fun file =>
    (parseFile decode file io.rereadRefusal).map fun entries =>
      { file, keys := { entries, revocation := [] } }

end KeyStore

/-- A whole call, a restart of the server, or another program's edit of the file. -/
inductive KeyEvent where
  | append (line : List Char) (io : Io)
  | remove (target : PubKey) (io : Io)
  | reload (io : Io)
  | restart (io : Io)
  | edit (file : FileContents)
  deriving DecidableEq

/-- A server that cannot open its file does not start. -/
def KeyStore.step (decode : List Char → Option (List UInt8)) (store : KeyStore) :
    KeyEvent → Option KeyStore
  | .append line io => some (store.appendLine decode line io).2
  | .remove target io => some (store.removePubkey decode target io).2
  | .reload io => some (store.reload decode io).2
  | .restart io => (KeyStore.open decode store.file io).toOption
  | .edit file => some { store with file }

/-- The line `handle_enroll` appends. -/
def enrollLine (ext : External) (pubkey : PubKey) (now : String) (labelHint : Option String) :
    String :=
  "ed25519 " ++ ext.base64 pubkey ++ " subdomain=* # enrolled " ++ now ++ " " ++ labelHint.getD ""

inductive KeyCall where
  | append (line : List Char)
  | remove (target : PubKey)
  deriving DecidableEq

inductive CallResult where
  | appended (line : List Char)
  | removed (found : Bool)
  | failed (problem : ServerError)
  deriving DecidableEq

/-- Where a call stands between two of its accesses to the file or the index. -/
inductive CallStage where
  | started
  | holding (contents : List Char)
  | wrote
  | reparsed (updated : HashMap PubKey AuthorizedEntry)
  | returned (result : CallResult)

/-- The registry and every call made on it so far, in the order they were made. -/
structure KeyCalls where
  store : KeyStore
  calls : List (KeyCall × CallStage)

inductive CallEvent where
  | invoke (call : KeyCall)
  | read (id : Nat) (refusal : Option String)
  | write (id : Nat) (written : Written)
  | reparse (id : Nat) (refusal : Option String)
  | update (id : Nat) (removedOrder modifiedOrder : List PubKey)
  deriving DecidableEq

namespace KeyCalls
variable (decode : List Char → Option (List UInt8))

def setStage (calls : KeyCalls) (id : Nat) (call : KeyCall) (stage : CallStage) : KeyCalls :=
  { calls with calls := calls.calls.set id (call, stage) }

/-- A line that does not parse is refused before the file is touched. -/
def invoked : KeyCall → CallStage
  | .append line =>
    if (parseLine decode line).isNone then
      .returned (.failed (.keys ("cannot parse: " ++ String.ofList line)))
    else .started
  | .remove _ => .started

/-- A removal that finds no line is over. -/
def afterRead (contents : List Char) : KeyCall → CallStage
  | .append _ => .holding contents
  | .remove target =>
    if isNamed decode target contents then .holding contents else .returned (.removed false)

/-- What a call replaces the contents it read by. -/
def rewrite (contents : List Char) : KeyCall → List Char
  | .append line => appended contents line
  | .remove target => without decode target contents

def step (calls : KeyCalls) : CallEvent → Option KeyCalls
  | .invoke call => some { calls with calls := calls.calls ++ [(call, invoked decode call)] }
  | .read id refusal =>
    match calls.calls[id]? with
    | some (call, .started) =>
      let contents := calls.store.file.readOrDefault refusal
      some (calls.setStage id call (afterRead decode contents call))
    | _ => none
  | .write id written =>
    match calls.calls[id]? with
    | some (call, .holding contents) =>
      match calls.store.atomicWrite (rewrite decode contents call) written with
      | (.error problem, store) =>
        some ({ calls with store }.setStage id call (.returned (.failed problem)))
      | (.ok (), store) => some ({ calls with store }.setStage id call .wrote)
    | _ => none
  | .reparse id refusal =>
    match calls.calls[id]? with
    | some (.remove target, .wrote) =>
      match KeyStore.parseFile decode calls.store.file refusal with
      | .error problem => some (calls.setStage id (.remove target) (.returned (.failed problem)))
      | .ok updated => some (calls.setStage id (.remove target) (.reparsed updated))
    | _ => none
  | .update id removedOrder modifiedOrder =>
    match calls.calls[id]? with
    | some (.append line, .wrote) =>
      (parseLine decode line).map fun (pubkey, entry) =>
        let store := { calls.store with keys := calls.store.keys.appendEntry pubkey entry }
        { calls with store }.setStage id (.append line) (.returned (.appended (trimEnd line)))
    | some (.remove target, .reparsed updated) =>
      let store := calls.store.swap updated removedOrder modifiedOrder
      some ({ calls with store }.setStage id (.remove target) (.returned (.removed true)))
    | _ => none

end KeyCalls

@[simp] theorem KeyCalls.setStage_calls (calls : KeyCalls) (id : Nat) (call : KeyCall)
    (stage : CallStage) :
    (calls.setStage id call stage).calls = calls.calls.set id (call, stage) := rfl

section Effects
variable (store : KeyStore) (updated : HashMap PubKey AuthorizedEntry)
  (removedOrder modifiedOrder : List PubKey)

theorem foldl_send (announced : List PubKey) (keys : KeyRegistry) :
    announced.foldl KeyRegistry.send keys =
      { keys with revocation := keys.revocation ++ announced } := by
  induction announced generalizing keys with
  | nil => rw [List.append_nil]; rfl
  | cons _ _ ih =>
    rw [List.foldl_cons, ih]
    simp only [KeyRegistry.send, List.append_assoc, List.singleton_append]

@[simp] theorem KeyStore.swap_file :
    (store.swap updated removedOrder modifiedOrder).file = store.file := rfl

@[simp] theorem KeyStore.swap_entries :
    (store.swap updated removedOrder modifiedOrder).keys.entries = updated := by
  simp only [KeyStore.swap, foldl_send, KeyRegistry.reload]

@[simp] theorem KeyStore.swap_revocation :
    (store.swap updated removedOrder modifiedOrder).keys.revocation = store.keys.revocation ++
        (KeyRegistry.removedKeys store.keys.entries updated removedOrder ++
          KeyRegistry.modifiedKeys store.keys.entries updated modifiedOrder) := by
  simp only [KeyStore.swap, foldl_send, KeyRegistry.reload]

end Effects

/-- The registry over the bytes of its file; no bytes if there is no file. -/
structure KeyDisk where
  file : Option (List UInt8)
  keys : KeyRegistry

/-- What `read_to_string` can make of the bytes. -/
def FileContents.ofBytes : Option (List UInt8) → FileContents
  | none => .missing
  | some bytes =>
    match String.fromUTF8? ⟨bytes.toArray⟩ with
    | none => .notUtf8
    | some decoded => .text decoded.toList

namespace KeyDisk
variable (decode : List Char → Option (List UInt8)) (disk : KeyDisk)

def store : KeyStore := ⟨.ofBytes disk.file, disk.keys⟩

/-- `fs::read_to_string(..).unwrap_or_default()`. -/
def readOrDefault (refusal : Option String) : List Char :=
  match refusal, disk.file with
  | none, some bytes => ((String.fromUTF8? ⟨bytes.toArray⟩).map String.toList).getD []
  | _, _ => []

def atomicWrite (contents : List UInt8) : Written → Except ServerError Unit × KeyDisk
  | .failed detail => (.error (.io detail), disk)
  | .unsynced detail => (.error (.io detail), { disk with file := some contents })
  | .done => (.ok (), { disk with file := some contents })

def appendLine (line : List Char) (io : Io) : Except ServerError (List Char) × KeyDisk :=
  match parseLine decode line with
  | none => (.error (.keys ("cannot parse: " ++ String.ofList line)), disk)
  | some (pubkey, entry) =>
    let new := appended (disk.readOrDefault io.refusal) line
    match disk.atomicWrite (utf8 (String.ofList new)) io.written with
    | (.error problem, disk) => (.error problem, disk)
    | (.ok (), disk) =>
      (.ok (trimEnd line), { disk with keys := disk.keys.appendEntry pubkey entry })

variable {decode disk}

theorem readOrDefault_store (refusal : Option String) :
    disk.store.file.readOrDefault refusal = disk.readOrDefault refusal := by
  obtain ⟨file, keys⟩ := disk
  cases refusal with
  | some => rfl
  | none =>
    cases file with
    | none => rfl
    | some bytes =>
      simp only [store, FileContents.ofBytes, readOrDefault]
      cases String.fromUTF8? ⟨bytes.toArray⟩ <;> rfl

@[simp] theorem ofBytes_utf8 (text : List Char) :
    FileContents.ofBytes (some (utf8 (String.ofList text))) = .text text := by
  simp only [FileContents.ofBytes, (fromUTF8?_eq_some_iff _ _).mpr rfl, String.toList_ofList]

/-- The call on the bytes is the call on the text they hold. -/
theorem appendLine_store (line : List Char) (io : Io) : disk.store.appendLine decode line io =
      ((disk.appendLine decode line io).1, (disk.appendLine decode line io).2.store) := by
  unfold KeyStore.appendLine appendLine
  cases parseLine decode line with
  | none => rfl
  | some =>
    simp only [readOrDefault_store]
    cases io.written with
    | failed => rfl
    | unsynced | done =>
      simp only [KeyStore.atomicWrite, atomicWrite, store, ofBytes_utf8]

end KeyDisk
end KrotRelay.Source
