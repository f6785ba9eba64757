import ChapelCheck.Session
import ChapelCheck.Proofs.Except
import ChapelCheck.Proofs.Remembered

/-!
# ChapelCheck.Proofs.Documents

Documents leave no trace in a session.

A session is looked at together with the files of its machine: files change in
any way, and calls come in (`Happening`).  The compiler is a function of the files
and of its start, and changes no files.  Then what comes in is answered from what
is remembered and from the files alone, and calls about documents change neither:

* `answers_without` — whatever leaves the state as it is can be struck out of a
  history, and all other answers stay;
* `receive_of_mem_documentMethods` — messages about documents are such, in every
  phase of a session and whatever their parameters are;
* `documents_leave_no_trace` — so they can be struck out of any session.
-/

namespace ChapelCheck

/-! ## histories -/

section

variable {α ι ο σ : Type}

/-- What happens on a machine: its files change, or something comes in. -/
inductive Happening (ι : Type) where
  | filesChanged (change : FileSystem → FileSystem)
  | came (input : ι)

/-- The answers to what comes in, in order; a change of files has none.  The
compiler looks at the files and changes none of them. -/
def answers (compile : FileSystem → Invocation → Except SystemError Finished)
    (handle : Host → σ → ι → σ × ο) : FileSystem → σ → List (Happening ι) → List (Option ο)
  | _, _, [] => []
  | files, s, .filesChanged change :: rest => none :: answers compile handle (change files) s rest
  | files, s, .came input :: rest =>
    some (handle ⟨files, compile files⟩ s input).2 ::
      answers compile handle files (handle ⟨files, compile files⟩ s input).1 rest

/-- A list without the entries at some positions. -/
def without (struck : Nat → Bool) : List α → List α
  | [] => []
  | x :: xs =>
    if struck 0 then without (fun i => struck (i + 1)) xs
    else x :: without (fun i => struck (i + 1)) xs

/-- **What leaves the state as it is can be struck out**, and the other answers
stay as they are. -/
theorem answers_without (compile : FileSystem → Invocation → Except SystemError Finished)
    {handle : Host → σ → ι → σ × ο} {happenings : List (Happening ι)} {struck : Nat → Bool}
    (hstruck : ∀ i x, happenings[i]? = some x → struck i = true →
      ∃ input, x = .came input ∧ ∀ h s, (handle h s input).1 = s) (files : FileSystem) (s : σ) :
    answers compile handle files s (without struck happenings) =
      without struck (answers compile handle files s happenings) := by
  induction happenings generalizing struck files s with
  | nil => rfl
  | cons x rest ih =>
      have hrest : ∀ files s,
          answers compile handle files s (without (fun i => struck (i + 1)) rest) =
            without (fun i => struck (i + 1)) (answers compile handle files s rest) :=
        ih fun i y hy hi => hstruck (i + 1) y hy hi
      cases hfirst : struck 0 with
      | true =>
          -- the rest starts from the same files and the same state with and without the entry
          obtain ⟨input, rfl, hleaves⟩ := hstruck 0 x rfl hfirst
          simp only [without, answers, hfirst, if_true, hleaves, hrest]
      | false =>
          cases x with
          | filesChanged change =>
              simp only [without, answers, hfirst, Bool.false_eq_true, if_false, hrest]
          | came input => simp only [without, answers, hfirst, Bool.false_eq_true, if_false, hrest]

end

/-! ## calls -/

/-- A call as a step of the server: what is sent for it, and what is logged. -/
def Server.respond (h : Host) (s : Server) (call : Call) : Server × (List Outgoing × List Event) :=
  ((s.handle h call).value.1, (s.handle h call).value.2, (s.handle h call).log)

/-! ## messages -/

namespace Session

/-- The methods of messages about documents. -/
def documentMethods : List String :=
  ["textDocument/didOpen", "textDocument/didChange", "textDocument/didSave",
    "textDocument/didClose"]

/-- A reader of calls about documents. -/
def ReadsDocuments (read : Json.Reader Call) : Prop :=
  ∀ v call, read v = .ok call → call.isAboutDocument = true

theorem readsDocuments_readDocument (shape inner : Json.Schema) {call : Url → Call}
    (hcall : ∀ u, (call u).isAboutDocument = true) :
    ReadsDocuments (Params.readDocument shape inner call) := by
  intro v c hread
  unfold Params.readDocument at hread
  split at hread
  · contradiction
  · split at hread
    · rw [← Except.ok.inj hread]
      exact hcall _
    · contradiction

/-- Messages about documents are notifications that are read so. -/
theorem exists_lookup_of_mem_documentMethods {method : String} (h : method ∈ documentMethods) :
    ∃ read, notifications.lookup method = some read ∧ ReadsDocuments read := by
  simp only [documentMethods, List.mem_cons, List.not_mem_nil, or_false] at h
  rcases h with rfl | rfl | rfl | rfl
  · exact ⟨Params.opened, rfl, readsDocuments_readDocument _ _ fun _ => rfl⟩
  · exact ⟨Params.changed, rfl, readsDocuments_readDocument _ _ fun _ => rfl⟩
  · exact ⟨Params.saved, rfl, readsDocuments_readDocument _ _ fun _ => rfl⟩
  · exact ⟨Params.closed, rfl, readsDocuments_readDocument _ _ fun _ => rfl⟩

/-- What is read out of the parameters of a message is read out of some value. -/
theorem exists_of_readParams {α : Type} {read : Json.Reader α} {params : Option Json} {a : α}
    (h : readParams read params = .ok a) : ∃ v, params = some v ∧ read v = .ok a := by
  cases params with
  | none => contradiction
  | some v => exact ⟨v, rfl, Except.mapError_eq_ok_iff.mp h⟩

/-- A notification about documents leaves the session as it is. -/
theorem notify_of_readsDocuments {read : Json.Reader Call} (hread : ReadsDocuments read) (h : Host)
    (s : Session) (m : Message) : (s.notify h read m).1 = s := by
  obtain ⟨phase, server⟩ := s
  cases phase with
  | initialized =>
      simp only [notify]
      cases m.id with
      | some id => rfl
      | none =>
          cases hparams : readParams read m.params with
          | error cause => rfl
          | ok call =>
              obtain ⟨v, _, hv⟩ := exists_of_readParams hparams
              simp only [perform, Server.handle_of_isAboutDocument (hread v call hv)]
  | _ => rfl

/-- A message about documents leaves the session as it is, in every phase and
whatever its parameters are. -/
theorem receive_of_mem_documentMethods {m : Message} (hm : m.method ∈ documentMethods) (h : Host)
    (s : Session) : (s.receive h m).1 = s := by
  obtain ⟨read, hlookup, hread⟩ := exists_lookup_of_mem_documentMethods hm
  have hne : ∀ method, method ∉ documentMethods → m.method ≠ method := by
    rintro _ hnot rfl
    exact hnot hm
  rw [receive, if_neg (hne _ (by decide)), if_neg (hne _ (by decide)), if_neg (hne _ (by decide)),
    hlookup]
  split
  · rfl
  · exact notify_of_readsDocuments hread h s m

end Session

/-! ## sessions -/

/-- **Documents leave no trace.**  Calls about documents change nothing that the
server remembers.  So if any of them are struck out of a session, whatever happens
to the files in between, all other calls are answered as before, with the same
messages and the same log; and so it is for the messages that the calls come in. -/
theorem documents_leave_no_trace
    (compile : FileSystem → Invocation → Except SystemError Finished) :
    (∀ (h : Host) (s : Server) (call : Call), call.isAboutDocument = true →
      (s.handle h call).value.1 = s) ∧
    (∀ (files : FileSystem) (s : Server) (happenings : List (Happening Call)) (struck : Nat → Bool),
      (∀ i x, happenings[i]? = some x → struck i = true →
        ∃ call, x = .came call ∧ call.isAboutDocument = true) →
      answers compile Server.respond files s (without struck happenings) =
        without struck (answers compile Server.respond files s happenings)) ∧
    ∀ (files : FileSystem) (s : Session) (happenings : List (Happening Message))
      (struck : Nat → Bool),
      (∀ i x, happenings[i]? = some x → struck i = true →
        ∃ m, x = .came m ∧ m.method ∈ Session.documentMethods) →
      answers compile Session.receive files s (without struck happenings) =
        without struck (answers compile Session.receive files s happenings) := by
  refine ⟨fun h s call hcall => Server.handle_of_isAboutDocument hcall h s,
    fun files s happenings struck hstruck => ?_, fun files s happenings struck hstruck => ?_⟩
  · refine answers_without compile (fun i x hx hi => ?_) files s
    obtain ⟨call, hcame, hcall⟩ := hstruck i x hx hi
    exact ⟨call, hcame, fun h s => Server.handle_of_isAboutDocument hcall h s⟩
  · refine answers_without compile (fun i x hx hi => ?_) files s
    obtain ⟨m, hcame, hm⟩ := hstruck i x hx hi
    exact ⟨m, hcame, fun h s => Session.receive_of_mem_documentMethods hm h s⟩

/-- A compiler by the name of `sh` that finds an error in the first line of `/M`. -/
def shCompiler (_ : FileSystem) (i : Invocation) : Except SystemError Finished :=
  if i.program = "sh" then .ok ⟨.code 1, Text.Utf8.encode "/M:1:e:a"⟩ else .error .notFound

/-- A document is opened and saved before there is a compiler, and saved again when
there is one. -/
def savedTwice : List (Happening Call) :=
  [.came (.opened (.ofNames ["M"])), .came (.saved (.ofNames ["M"])),
    .came (.configurationChanged (.array [.string "sh"])), .filesChanged id,
    .came (.saved (.ofNames ["M"]))]

/-- The first save is struck out, and the second one is answered as before. -/
theorem documents_leave_no_trace_savedTwice :
    answers shCompiler Server.respond Host.bare.files (.ofSettings .default)
        (without (fun i => decide (i = 1)) savedTwice) =
      without (fun i => decide (i = 1))
        (answers shCompiler Server.respond Host.bare.files (.ofSettings .default) savedTwice) ∧
    (answers shCompiler Server.respond Host.bare.files (.ofSettings .default)
        (without (fun i => decide (i = 1)) savedTwice)).map (Option.map Prod.fst) =
      [some [], some [], none, some [.message .log "Document saved: file:///M",
        .message .log "Publishing 1 diagnostics for file:///M",
        .publish (.ofNames ["M"]) [⟨0, 1, .error, "a"⟩]]] := by
  refine ⟨(documents_leave_no_trace shCompiler).2.1 _ _ _ _ fun i x hx hi => ?_, by decide +kernel⟩
  obtain rfl : i = 1 := of_decide_eq_true hi
  obtain rfl : .came (.saved (.ofNames ["M"])) = x := Option.some.inj hx
  exact ⟨_, rfl, rfl⟩

end ChapelCheck
