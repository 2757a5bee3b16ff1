import TemplateWorkbench.Json.Reader
import TemplateWorkbench.Json.Writer
import TemplateWorkbench.Logging.Message
import TemplateWorkbench.Settings.FileTree
import TemplateWorkbench.Text.Lines
import TemplateWorkbench.Text.Utf8

/-!
# Storages and settings

Settings are kept in a storage, in memory or in a file.
-/

namespace TemplateWorkbench

/-!
## Storages

A storage keeps texts under keys: in memory, or in one file that holds a JSON object.  There is also
the storage that refuses everything.  An operation answers with the storage after it, since one that
fails may have left something behind.

A storage in a file reads the whole file before every operation and keeps no other state; members of
the object that are not texts are no entries.  The file is written with its members in order, so
what it holds is told by its entries alone.
-/

/-- Why a storage does not do what it is asked. -/
inductive StorageFault where
  /-- The settings file cannot be read or written. -/
  | settingsFile (message : String)
  /-- The settings file is nested too deeply. -/
  | tooDeep (message : String)
  /-- The storage refuses. -/
  | refused (message : String)
deriving DecidableEq, Repr

/-- What is said of a fault. -/
def StorageFault.message : StorageFault → String
  | settingsFile message => message
  | tooDeep message => message
  | refused message => message

/-- The entries of a storage. -/
abbrev Entries := List (String × String)

namespace Entries

/-- The text under a key. -/
def get? (entries : Entries) (key : String) : Option String := entries.lookup key

/-- The entries with a text put under a key. -/
def put (entries : Entries) (key text : String) : Entries := Json.putMember key text entries

/-- The entries without a key. -/
def erase (entries : Entries) (key : String) : Entries := entries.filter fun entry => entry.1 != key

/-- The entries as an object. -/
def toJson (entries : Entries) : Json := .object (entries.map fun (key, text) => (key, .string text))

/-- The members of an object that are texts. -/
def ofMembers (members : List (String × Json)) : Entries :=
  members.filterMap fun (key, value) =>
    match value with
    | .string text => some (key, text)
    | _ => none

end Entries

/-- The content of a settings file with the given entries. -/
def settingsText (entries : Entries) : List Char :=
  match Json.writeChars .settingsFile 0 entries.toJson with
  | .ok text => text
  | .error _ => []

/-- A settings file: a file tree and a path into it. -/
structure SettingsFile where
  tree : FileTree
  path : TreePath
deriving DecidableEq, Repr

namespace SettingsFile

/-- The fault of a file that cannot be read. -/
def readFault (path : TreePath) (why : String) : StorageFault :=
  .settingsFile s!"Cannot read settings file {TreePath.text path}: {why}"

/-- The fault of a file that cannot be written. -/
def writeFault (path : TreePath) (why : String) : StorageFault :=
  .settingsFile s!"Cannot write settings file {TreePath.text path}: {why}"

/-- The entries that the octets of a settings file hold. -/
def decode (path : TreePath) (octets : List UInt8) : Except StorageFault Entries :=
  match Text.Utf8.decode octets with
  | .error fault => .error (readFault path fault.message)
  | .ok characters =>
    let text := String.ofList (Text.unify characters)
    match Json.read text with
    | .error (.tooDeep container) => .error (.tooDeep ((Json.ReadFault.tooDeep container).message text))
    | .error fault => .error (readFault path (fault.message text))
    | .ok (.object members) => .ok (Entries.ofMembers members)
    | .ok _ =>
      .error (.settingsFile s!"Settings file {TreePath.text path} does not contain an object")

/-- The entries of a settings file; a file that is not there has none, and no file has a name with the
null character in it. -/
def load (file : SettingsFile) : Except StorageFault Entries :=
  if file.path.any fun name => name.toList.contains '\x00' then
    .error (readFault file.path "embedded null byte")
  else match file.tree.read file.path with
  | .ok octets => decode file.path octets
  | .error fault =>
    if fault.reason = .missing then .ok [] else .error (readFault file.path fault.message)

/-- Writes entries to a settings file. -/
def save (file : SettingsFile) (entries : Entries) : SettingsFile × Except StorageFault Unit :=
  let (tree, fault) := file.tree.save file.path (Text.Utf8.encode (settingsText entries))
  ({ file with tree },
    match fault with
    | none => .ok ()
    | some fault => .error (writeFault file.path fault.message))

/-- The text under a key. -/
def get? (file : SettingsFile) (key : String) : Except StorageFault (Option String) := do
  pure ((← file.load).get? key)

/-- Puts a text under a key. -/
def set (file : SettingsFile) (key text : String) : SettingsFile × Except StorageFault Unit :=
  match file.load with
  | .error fault => (file, .error fault)
  | .ok entries => file.save (entries.put key text)

/-- Takes a key away; a file without the key is not written. -/
def remove (file : SettingsFile) (key : String) : SettingsFile × Except StorageFault Unit :=
  match file.load with
  | .error fault => (file, .error fault)
  | .ok entries =>
    if (entries.get? key).isSome then file.save (entries.erase key) else (file, .ok ())

end SettingsFile

/-- A storage. -/
inductive Storage where
  | memory (entries : Entries)
  | file (file : SettingsFile)
  /-- A storage that refuses everything. -/
  | broken
deriving DecidableEq, Repr

namespace Storage

/-- The fault of reading from, or removing from, a storage that refuses. -/
def blocked : StorageFault := .refused "storage is blocked"

/-- The fault of writing to a storage that refuses. -/
def exhausted : StorageFault := .refused "quota exceeded"

/-- The text under a key. -/
def get? (storage : Storage) (key : String) : Except StorageFault (Option String) :=
  match storage with
  | memory entries => .ok (entries.get? key)
  | file settings => settings.get? key
  | broken => .error blocked

/-- Puts a text under a key. -/
def set (storage : Storage) (key text : String) : Storage × Except StorageFault Unit :=
  match storage with
  | memory entries => (memory (entries.put key text), .ok ())
  | file settings =>
    let (after, result) := settings.set key text
    (file after, result)
  | broken => (broken, .error exhausted)

/-- Takes a key away. -/
def remove (storage : Storage) (key : String) : Storage × Except StorageFault Unit :=
  match storage with
  | memory entries => (memory (entries.erase key), .ok ())
  | file settings =>
    let (after, result) := settings.remove key
    (file after, result)
  | broken => (broken, .error blocked)

end Storage

/-!
## Settings

A settings store keeps JSON values under keys in a storage that other stores may share; its namespace
keeps its keys apart from theirs.  Reading gives a fallback whenever there is no value to be had, and
writing reports its failures instead of raising them.  Without a storage nothing is kept.
-/

/-- The outcome of a write: nothing, or what is said of its failure. -/
structure Persisted where
  error : Option String
deriving DecidableEq, Repr

/-- Whether a write succeeded. -/
def Persisted.isOk (persisted : Persisted) : Bool := persisted.error.isNone

/-- A settings store: its storage, if it has one, and its namespace. -/
structure SettingsStore where
  storage : Option Storage
  space : String
deriving Repr

namespace SettingsStore

/-- The namespace of a store that is given none. -/
def defaultSpace : String := "template-playground"

/-- The failure of a store without a storage. -/
def unavailable : String := "storage unavailable"

/-- Whether the store has a storage. -/
def isAvailable (store : SettingsStore) : Bool := store.storage.isSome

/-- The key under which the storage keeps a key of the store. -/
def keyFor (store : SettingsStore) (key : String) : String := s!"{store.space}:{key}"

/-- A message of the store about a key. -/
def note (text : String) : LogMessage := ⟨.debug, "core.settings", text⟩

/-- What a storage's answer for a key comes to: the value or the fallback, with what is logged; or the
fault of a value that is nested too deeply. -/
def answered (key : String) (fallback : Json) :
    Except StorageFault (Option String) → Except String Json × List LogMessage
  | .error fault =>
    (.ok fallback, [note s!"Settings read failed for {Text.quote key}: {fault.message}"])
  | .ok none => (.ok fallback, [])
  | .ok (some raw) =>
    match Json.read raw with
    | .ok value => (.ok value, [])
    | .error (.tooDeep container) => (.error ((Json.ReadFault.tooDeep container).message raw), [])
    | .error _ => (.ok fallback, [note s!"Ignoring undecodable setting {Text.quote key}"])

/-- What reading a key gives. -/
def get (store : SettingsStore) (key : String) (fallback : Json) :
    Except String Json × List LogMessage :=
  match store.storage with
  | none => (.ok fallback, [])
  | some storage => answered key fallback (storage.get? (store.keyFor key))

/-- The report of a write that went wrong. -/
def failure (what key why : String) : Persisted × List LogMessage :=
  (⟨some why⟩, [note s!"Settings {what} failed for {Text.quote key}: {why}"])

/-- The report of a write with the given result. -/
def report (what key : String) : Except StorageFault Unit → Persisted × List LogMessage
  | .ok () => (⟨none⟩, [])
  | .error fault => failure what key fault.message

/-- Puts the JSON text of a value under a key, or reports why the value has none. -/
def setEncoded (store : SettingsStore) (key : String) (encoded : Except String String) :
    SettingsStore × Persisted × List LogMessage :=
  match store.storage, encoded with
  | none, _ => (store, ⟨some unavailable⟩, [])
  | some _, .error why => (store, failure "write" key why)
  | some storage, .ok text =>
    let (after, result) := storage.set (store.keyFor key) text
    ({ store with storage := some after }, report "write" key result)

/-- Puts a value under a key. -/
def set (store : SettingsStore) (key : String) (value : Json) :
    SettingsStore × Persisted × List LogMessage :=
  store.setEncoded key <|
    match Json.write .asciiLine value with
    | .ok text => .ok text
    | .error fault => .error fault.message

/-- Takes a key away, so that later reads give the fallback. -/
def remove (store : SettingsStore) (key : String) :
    SettingsStore × Persisted × List LogMessage :=
  match store.storage with
  | none => (store, ⟨some unavailable⟩, [])
  | some storage =>
    let (after, result) := storage.remove (store.keyFor key)
    ({ store with storage := some after }, report "removal" key result)

end SettingsStore

end TemplateWorkbench
