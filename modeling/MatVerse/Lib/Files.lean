import MatVerse.Lib.JsonRoundTrip
import MatVerse.Lib.Text

/-! Files as bytes under their paths, and JSON documents kept in them. -/

abbrev Files := String → Option ByteArray

namespace Files

inductive ReadError where
  | missing
  | encoding
  | malformed
  deriving DecidableEq

def isFile (files : Files) (path : String) : Bool := (files path).isSome

def write (files : Files) (path : String) (bytes : ByteArray) : Files :=
  Function.update files path (some bytes)

def readText (files : Files) (path : String) : Except ReadError String :=
  match files path with
  | none => .error .missing
  | some bytes =>
    match String.fromUTF8? bytes with
    | none => .error .encoding
    | some text => .ok text

def readJson (files : Files) (path : String) : Except ReadError Json := do
  let text ← files.readText path
  match JsonText.loads text with
  | none => .error .malformed
  | some v => return v

/-- A document on lines of its own, ended by a newline. -/
def documentText (v : Json) : String := JsonText.dumps (JsonText.indented 2) v ++ "\n"

def writeJson (files : Files) (path : String) (v : Json) : Files :=
  files.write path (documentText v).toUTF8

theorem write_apply (files : Files) (path other : String) (bytes : ByteArray) :
    files.write path bytes other = if other = path then some bytes else files other := by
  simp [write, Function.update_apply]

theorem write_self (files : Files) (path : String) (bytes : ByteArray) :
    files.write path bytes path = some bytes := by
  simp [write]

theorem write_of_ne {path other : String} (apart : other ≠ path) (files : Files) (bytes : ByteArray) :
    files.write path bytes other = files other := by
  simp [write, apart]

theorem loads_documentText (v : Json) : JsonText.loads (documentText v) = some v.norm := by
  have newline : ∀ c ∈ ['\n'], JsonText.isBlank c = true := by simp [JsonText.isBlank]
  have read := JsonText.parse_render (JsonText.indented 2) 0 v newline
  have text : (documentText v).toList = JsonText.render (JsonText.indented 2) 0 v ++ ['\n'] := by
    simp [documentText, JsonText.dumps]
  rw [JsonText.loads, text, read]
  rfl

theorem readJson_document {files : Files} {path : String} {v : Json}
    (found : files path = some (documentText v).toUTF8) : files.readJson path = .ok v.norm := by
  have text : files.readText path = .ok (documentText v) := by
    simp only [readText, found, Text.fromUTF8?_toUTF8]
  rw [readJson, text]
  simp only [bind, Except.bind, loads_documentText]
  rfl

theorem readJson_writeJson (files : Files) (path : String) (v : Json) :
    (files.writeJson path v).readJson path = .ok v.norm :=
  readJson_document (write_self files path _)

theorem readJson_congr {files other : Files} {path : String} (same : files path = other path) :
    files.readJson path = other.readJson path := by
  simp only [readJson, readText, same]

theorem writeJson_of_ne {path other : String} (apart : other ≠ path) (files : Files) (v : Json) :
    files.writeJson path v other = files other := write_of_ne apart files _

theorem readJson_normal {files : Files} {path : String} {v : Json} (read : files.readJson path = .ok v) :
    v.Normal := by
  unfold readJson at read
  cases text : files.readText path with
  | error e => simp [text, bind, Except.bind] at read
  | ok t =>
    cases parsed : JsonText.loads t with
    | none => simp [text, parsed, bind, Except.bind] at read
    | some w =>
      obtain rfl : w = v := by simpa [text, parsed, bind, Except.bind, pure, Except.pure] using read
      exact JsonText.normal_loads parsed

end Files
