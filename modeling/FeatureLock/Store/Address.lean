import FeatureLock.Text.Authority
import FeatureLock.Text.Percent

/-!
# Database addresses

An address names a database and says, by its parameters, how to open it.

## Main Definitions

- `Address`, `Address.read?`: what an address asks for, if it can be understood
- `DataFile`, `Address.file?`: the file that is opened for it, which need not be on
  disk
- `DataFile.opens`: whether the file can be opened as a database
- `openDatabase?`: the file of an address that can be opened

## Design Notes

No database file exists beforehand, so a file that is not to be created cannot be
opened.  The path of a file is bytes, which need not be a text.
-/

namespace FeatureLock

/-- What may be done with a file, each more than the one before. -/
inductive Access where
  | read
  | write
  /-- write it, and create it if it is missing -/
  | create
  deriving DecidableEq

/-- How much may be done with a file. -/
def Access.rank : Access → Nat
  | read => 0
  | write => 1
  | create => 2

/-- What an address asks for. -/
structure Address where
  /-- the name of the file -/
  name : String
  /-- whether the database is kept in memory -/
  inMemory : Bool
  /-- whether nothing may be written -/
  readOnly : Bool
  /-- whether the file is created if it is missing -/
  create : Bool
  /-- whether the file is said not to change -/
  immutable : Bool
  /-- the name of the file system to use -/
  system : Option (List UInt8)
  deriving DecidableEq

/-- A file to open as a database. -/
structure DataFile where
  path : List UInt8
  inMemory : Bool
  /-- what may be done with it, unless nothing is said about that -/
  access : Option Access
  /-- the name of the file system to use -/
  system : Option (List UInt8)
  /-- whether it is said not to change, if anything is said about that -/
  immutable : Option Bool
  deriving DecidableEq

/-! ### The form of an address -/

/-- A text without a front, as often as the front stands there. -/
def withoutFront (front : List Char) (cs : List Char) : List Char :=
  if front ≠ [] ∧ front.isPrefixOf cs then withoutFront front (cs.drop front.length) else cs
termination_by cs.length
decreasing_by
  rename_i h
  have hp : front.length ≤ cs.length := (List.isPrefixOf_iff_prefix.1 h.2).length_le
  have hf : 0 < front.length := List.length_pos_iff.2 h.1
  simp only [List.length_drop]
  omega

/-- The bytes of a text. -/
def bytesOf (s : String) : List UInt8 :=
  s.toUTF8.toList

/-- The bytes before a zero. -/
def beforeZero (bs : List UInt8) : List UInt8 :=
  bs.takeWhile (· ≠ 0)

namespace Address

/-- Control characters and spaces, which do not count around an address. -/
def isEdge (c : Char) : Bool :=
  c.toNat ≤ 0x20

/-- The characters of an address that count when it is taken apart. -/
def bare (url : String) : List Char :=
  let front := url.toList.dropWhile isEdge
  (front.reverse.dropWhile isEdge).reverse.filter (· ∉ ['\t', '\n', '\r'])

/-- Whether an address is one of a database of this kind. -/
def isOurs (url : String) : Bool :=
  let cs := bare url
  let scheme := cs.takeWhile (· ≠ ':')
  let rest := cs.drop (scheme.length + 1)
  scheme.length < cs.length && String.ofList (scheme.map Char.toLower) = "sqlite" &&
    match rest with
    | '/' :: '/' :: authority => Text.isAuthority authority
    | _ => true

/-! ### Reading an address -/

/-- An address without parameters. -/
def ofName (name : String) (inMemory : Bool) : Address :=
  ⟨name, inMemory, false, false, false, none⟩

/-- A parameter of an address; one that is not known is refused. -/
def set? (a : Address) (field : Text.Field) : Option Address :=
  match Text.ofBytes? field.1, Text.ofBytes? field.2 with
  | some "mode", some "ro" => some { a with readOnly := true }
  | some "mode", some "rw" => some a
  | some "mode", some "rwc" => some { a with create := true }
  | some "mode", some "memory" => some { a with inMemory := true }
  | some "cache", some "private" => some a
  | some "cache", some "shared" => some a
  | some "immutable", some v =>
    if v = "true" ∨ v = "1" then some { a with immutable := true }
    else if v = "false" ∨ v = "0" then some { a with immutable := false }
    else none
  | some "vfs", _ => some { a with system := some (beforeZero field.2) }
  | _, _ => none

/-- **What an address asks for**, if it can be understood. -/
def read? (url : String) : Option Address :=
  if !isOurs url then none
  else
    let rest := withoutFront "sqlite:".toList (withoutFront "sqlite://".toList url.toList)
    let name := rest.takeWhile (· ≠ '?')
    let base :=
      if name = ":memory:".toList then some (ofName "" true)
      else (Text.percentDecode? name).map (ofName · false)
    base.bind fun a => (Text.formFields (rest.drop (name.length + 1))).foldlM set? a

/-! ### Files -/

/-- What an address lets be done with its file. -/
def access (a : Address) : Access :=
  if a.readOnly then .read else if a.create then .create else .write

end Address

namespace DataFile

/-- **Change what may be done with a file.**  More than before may only be done with one that is
kept in memory so far. -/
def permit? (f : DataFile) (access : Access) : Option DataFile :=
  if !f.inMemory && f.access.any (·.rank < access.rank) then none
  else some { f with inMemory := false, access := some access }

/-- Whether a text says yes: by a word in any case, or by a decimal number that leaves a remainder
by 256. -/
def isYes (s : String) : Bool :=
  match Numeral.readDigits? (s.toList.takeWhile Char.isDigit) with
  | some n => n < 2147483648 && n % 256 != 0
  | none => s.toLower ∈ ["on", "yes", "true", "extra", "full"]

/-- A parameter within the name of a file; one that is not known does not count.  The first word on
whether the file changes holds. -/
def set? (f : DataFile) (field : Text.Field) : Option DataFile :=
  match Text.ofBytes? field.1, Text.ofBytes? field.2 with
  | some "mode", some "ro" => f.permit? .read
  | some "mode", some "rw" => f.permit? .write
  | some "mode", some "rwc" => f.permit? .create
  | some "mode", some "memory" => some { f with inMemory := true, access := none }
  | some "mode", _ => none
  | some "cache", v => if v ∈ [some "private", some "shared"] then some f else none
  | some "vfs", _ => some { f with system := some field.2 }
  | some "immutable", v => some { f with immutable := f.immutable.or (some (v.any isYes)) }
  | _, _ => some f

/-- The name of a file behind `file:`, without its host, which has to be this one. -/
def localName? (cs : List Char) : Option (List Char) :=
  match cs with
  | '/' :: '/' :: rest =>
    let host := rest.takeWhile (· ≠ '/')
    if host = [] ∨ host = "localhost".toList then some (rest.drop host.length) else none
  | _ => some cs

/-- The parameters within the name of a file.  Each name and each value ends before a zero; one
without a name does not count. -/
def nameFields (cs : List Char) : List Text.Field :=
  ((Text.fields cs).map fun (name, value) => (beforeZero name, beforeZero value)).filter
    (·.1 ≠ [])

end DataFile

/-- **The file that is opened for an address.**  A name that begins with `file:` has parameters of
its own, unless the address has to add some. -/
def Address.file? (a : Address) : Option DataFile :=
  let plain : DataFile :=
    { path := beforeZero (bytesOf a.name), inMemory := a.inMemory, access := some a.access
      system := a.system, immutable := if a.immutable then some true else none }
  if a.immutable || a.system.isSome then some plain
  else if '\x00' ∈ a.name.toList then none
  else if !"file:".toList.isPrefixOf a.name.toList then some plain
  else do
    let cs := (← DataFile.localName? (a.name.toList.drop 5)).takeWhile (· ≠ '#')
    let path := cs.takeWhile (· ≠ '?')
    let fields := DataFile.nameFields (cs.drop (path.length + 1))
    fields.foldlM DataFile.set? { plain with path := beforeZero (Text.percentBytes path) }

namespace DataFile

/-! ### Opening -/

/-- Whether a file is more than what is kept for a while: it is not kept in memory, and has a
name. -/
def isLasting (f : DataFile) : Bool :=
  !f.inMemory && f.path ≠ bytesOf ":memory:" && f.path ≠ []

/-- Whether nothing may be written to a file. -/
def readOnly (f : DataFile) : Bool :=
  f.access = some .read || (f.isLasting && f.immutable = some true)

/-- The file systems that keep files on disk. -/
def diskSystems : List String :=
  ["unix", "unix-none", "unix-dotfile", "unix-excl"]

/-- How many bytes a path may have in the file system that keeps files in memory, which also counts
an ending of eight bytes. -/
def maxMemoryPath : Nat := 1016

/-- The steps of a path, one up for two points; empty ones and single points lead nowhere. -/
def steps (path : List UInt8) : List (List UInt8) :=
  ((path.splitBy fun a b => a ≠ 47 && b ≠ 47).filter (· ∉ [[47], [46]])).foldl
    (fun found step => if step = [46, 46] then found.dropLast else found ++ [step]) []

/-- How many bytes a name within a path may have. -/
def maxStepLength : Nat := 255

/-- Whether a file can be created under a path: where the host runs, or among temporary files. -/
def canCreate (path : List UInt8) : Bool :=
  let inReach : Bool := match path.head?, steps path with
    | some 47, [parent, _] => parent = bytesOf "tmp"
    | some 47, _ => false
    | _, [_] => true
    | _, _ => false
  inReach && (path.splitBy fun a b => a ≠ 47 && b ≠ 47).all (·.length ≤ maxStepLength)

/-- **Whether a file can be opened as a database**: it is kept in memory, has no lasting name, or is
created. -/
def opens (f : DataFile) : Bool :=
  let system := f.system.getD (bytesOf "unix")
  if system = bytesOf "memdb" then !f.isLasting || f.path.length ≤ maxMemoryPath
  else diskSystems.any (bytesOf · = system) &&
    (!f.isLasting || (f.access = some .create && canCreate f.path))

end DataFile

/-- **The file of an address, if it can be opened as a database.** -/
def openDatabase? (url : String) : Option DataFile :=
  ((Address.read? url).bind Address.file?).filter DataFile.opens

end FeatureLock
