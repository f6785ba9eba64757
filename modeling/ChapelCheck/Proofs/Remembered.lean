import ChapelCheck.Session.Server

/-!
# ChapelCheck.Proofs.Remembered

What the server remembers, after one call and after any number of them.

A server is its settings and its workspace folders.  What a call does to them is
told by what it brings: a value with settings (`Call.settings?`), folders that
are added and folders that are removed.  Later proofs do not look at the calls
themselves:

* `settings_handle` — settings change by the value that a call brings;
* `folders_handle` — folders change by those that a call removes and adds, unless
  it begins a session;
* `handle_of_isAboutDocument` — a call about a document changes nothing.
-/

namespace ChapelCheck

namespace Call

/-- The value that a call brings settings in, if it brings one. -/
def settings? : Call → Option Json
  | .began options _ _ => options
  | .configurationChanged value => some value
  | _ => none

/-- Whether a call begins a session. -/
def begins : Call → Bool
  | .began .. => true
  | _ => false

/-- The folders that a call adds to the workspace. -/
def added : Call → List Path
  | .foldersChanged urls _ => urls.filterMap Url.filePath?
  | _ => []

/-- The folders that a call removes from the workspace. -/
def removed : Call → List Path
  | .foldersChanged _ urls => urls.filterMap Url.filePath?
  | _ => []

/-- Whether a call tells what has become of a document. -/
def isAboutDocument : Call → Bool
  | .opened _ | .changed _ | .saved _ | .closed _ => true
  | _ => false

end Call

namespace Server

/-! ## one call -/

/-- Settings change by the value that a call brings, if it brings one. -/
theorem settings_handle (h : Host) (s : Server) (call : Call) :
    (s.handle h call).value.1.settings =
      call.settings?.elim s.settings fun value => (applySettings s.settings value).value := by
  cases call with
  | began options folders root => cases options <;> rfl
  | _ => rfl

/-- The folders of a session's beginning replace those before it. -/
theorem folders_began (h : Host) (s : Server) (options : Option Json) (folders : Option (List Url))
    (root : Option Url) :
    (s.handle h (.began options folders root)).value.1.folders = initialFolders folders root := rfl

/-- Folders change by those that a call removes, and then by those that it adds. -/
theorem folders_handle {call : Call} (hcall : call.begins = false) (h : Host) (s : Server) :
    (s.handle h call).value.1.folders =
      call.added.foldl addFolder (call.removed.foldl removeFolder s.folders) := by
  cases call with
  | began options folders root => contradiction
  | _ => rfl

/-- A call about a document changes nothing that the server remembers. -/
theorem handle_of_isAboutDocument {call : Call} (hcall : call.isAboutDocument = true) (h : Host)
    (s : Server) : (s.handle h call).value.1 = s := by
  cases call with
  | opened document => rfl
  | changed document => rfl
  | saved document => rfl
  | closed document => rfl
  | _ => contradiction

/-! ## any number of calls -/

/-- The server after some calls, each on a machine of its own. -/
def run (s : Server) (steps : List (Host × Call)) : Server :=
  steps.foldl (fun s step => (s.handle step.1 step.2).value.1) s

@[simp] theorem run_nil (s : Server) : s.run [] = s := rfl

@[simp] theorem run_cons (s : Server) (h : Host) (call : Call) (steps : List (Host × Call)) :
    s.run ((h, call) :: steps) = (s.handle h call).value.1.run steps := rfl

theorem run_append (s : Server) (steps later : List (Host × Call)) :
    s.run (steps ++ later) = (s.run steps).run later := List.foldl_append

end Server

/-! ## a small machine -/

/-- A machine without files, on which nothing can be started. -/
def Host.bare : Host where
  files := ⟨.directory [], some []⟩
  start _ := .error .notFound

/-- The URL of the file or folder with these names from the root on. -/
def Url.ofNames (names : List String) : Url := ⟨"file", some "", none, .rooted names, none, none⟩

end ChapelCheck
