import ChapelCheck.Proofs.Published

/-!
# ChapelCheck.Proofs.Shown

What an editor has on display for a document, after any number of calls.

The calls come one after the other, each to the server that the calls before it
have left (`Server.turns`), and on a machine whose files and programs may have
changed in the meantime.  A call decides what is on display for a document if it
closes the document, or saves it and the compiler can be started (`Settles`):

* `published_cases_of_saved` — all that a save can come to;
* `publishesForItself` — which calls publish, how often and for which document;
* `displayed_of_isLatest` — on display is what the latest call that decides
  about the document has published.
-/

namespace ChapelCheck

open Editor.Diagnostic

/-! ## turns -/

/-- A call, with the server that it comes to and the machine it is handled on. -/
structure Turn where
  host : Host
  server : Server
  call : Call

namespace Turn

/-- What is sent for a call. -/
def sent (t : Turn) : List Outgoing := (t.server.handle t.host t.call).value.2

/-- The server that a call leaves. -/
def after (t : Turn) : Server := (t.server.handle t.host t.call).value.1

end Turn

/-- The calls of a session one after the other, each on a machine of its own. -/
def Server.turns (s : Server) : List (Host × Call) → List Turn
  | [] => []
  | (host, call) :: steps => ⟨host, s, call⟩ :: (Turn.after ⟨host, s, call⟩).turns steps

/-- What is sent in some turns. -/
def sentIn (turns : List Turn) : List Outgoing := turns.flatMap Turn.sent

/-! ## what is on display -/

/-- What is published for the document with this URI, in order. -/
def publishedFor (uri : String) (sent : List Outgoing) : List (List Editor.Diagnostic) :=
  ((published sent).filter fun p => p.1.text = uri).map Prod.snd

/-- What is on display for the document with this URI: what was published for it
last, if anything was. -/
def displayed (uri : String) (sent : List Outgoing) : Option (List Editor.Diagnostic) :=
  (publishedFor uri sent).getLast?

theorem published_append (sent sent' : List Outgoing) :
    published (sent ++ sent') = published sent ++ published sent' :=
  List.filterMap_append

theorem publishedFor_append (uri : String) (sent sent' : List Outgoing) :
    publishedFor uri (sent ++ sent') = publishedFor uri sent ++ publishedFor uri sent' := by
  rw [publishedFor, published_append, List.filter_append, List.map_append, publishedFor,
    publishedFor]

theorem sentIn_append (turns turns' : List Turn) :
    sentIn (turns ++ turns') = sentIn turns ++ sentIn turns' :=
  List.flatMap_append

theorem sentIn_cons (t : Turn) (turns : List Turn) : sentIn (t :: turns) = t.sent ++ sentIn turns :=
  List.flatMap_cons

/-- What is published for one document is published for its URI. -/
theorem publishedFor_of_published {sent : List Outgoing} {document : Url}
    {shown : List Editor.Diagnostic} (h : published sent = [(document, shown)]) :
    publishedFor document.text sent = [shown] := by
  rw [publishedFor, h, List.filter_cons_of_pos (by simp)]
  rfl

/-- Where nothing is published for other documents, nothing is published for other
URIs. -/
theorem publishedFor_eq_nil {sent : List Outgoing} {document : Url} {uri : String}
    (h : ∀ p ∈ published sent, p.1 = document) (hne : document.text ≠ uri) :
    publishedFor uri sent = [] := by
  rw [publishedFor, List.map_eq_nil_iff, List.filter_eq_nil_iff]
  intro p hp
  rw [h p hp, decide_eq_true_iff]
  exact hne

/-- Whether something that is sent is a message about an error. -/
def Outgoing.isError : Outgoing → Bool
  | .message .error _ => true
  | _ => false

/-! ## saves -/

/-- The start of the compiler that a save of this file asks for. -/
def Server.invocationFor (h : Host) (s : Server) (file : Path) : Invocation :=
  Compiler.invocation s.settings file (s.includesOf h file).toList

/-- A compiler that can be started leaves a check with a result. -/
theorem Server.exists_diagnose_of_ok {h : Host} {s : Server} {file : Path} {finished : Finished}
    (hstart : h.start (s.invocationFor h file) = .ok finished) :
    ∃ found, (diagnose h s file).value = .ok found := by
  obtain ⟨found, hfound, _⟩ := exists_extract_forFile (Host.value_check_checker hstart)
  exact ⟨found, by rw [value_diagnose, hfound]⟩

/-- A save leaves the server as it was. -/
theorem Server.after_saved (h : Host) (s : Server) (document : Url) :
    Turn.after ⟨h, s, .saved document⟩ = s := rfl

/-- Where a document is no file, nothing is published. -/
theorem published_saved_of_none {document : Url} (hfile : document.filePath? = none) (h : Host)
    (s : Server) : published (Turn.sent ⟨h, s, .saved document⟩) = [] := by
  simp only [Turn.sent, Server.handle, Server.check, hfile, Logged.value_bind, Logged.value_pure]
  rfl

/-- Where the compiler cannot be started, nothing is published and one error is
shown. -/
theorem published_saved_of_error {document : Url} {file : Path} {h : Host} {s : Server}
    {cause : SystemError} (hfile : document.filePath? = some file)
    (hstart : h.start (s.invocationFor h file) = .error cause) :
    published (Turn.sent ⟨h, s, .saved document⟩) = [] ∧
      (Turn.sent ⟨h, s, .saved document⟩).countP Outgoing.isError = 1 := by
  rw [Server.invocationFor] at hstart
  rw [Turn.sent, Server.value_saved_eq_sentFor hfile, hstart]
  exact ⟨rfl, rfl⟩

/-- Where the compiler can be started, the diagnostics of the check are
published. -/
theorem published_saved_of_ok {document : Url} {file : Path} {h : Host} {s : Server}
    {finished : Finished} (hfile : document.filePath? = some file)
    (hstart : h.start (s.invocationFor h file) = .ok finished) :
    ∃ found, (s.diagnose h file).value = .ok found ∧
      published (Turn.sent ⟨h, s, .saved document⟩) = [(document, forFile found file)] := by
  obtain ⟨found, hfound⟩ := Server.exists_diagnose_of_ok hstart
  exact ⟨found, hfound, Server.published_saved_of_diagnose hfile hfound⟩

/-- **All that a save can come to**: nothing is published, or one list is, for the
saved document, and then it is a file that the compiler could be started on. -/
theorem published_cases_of_saved (h : Host) (s : Server) (document : Url) :
    published (Turn.sent ⟨h, s, .saved document⟩) = [] ∨
    ∃ file finished shown, document.filePath? = some file ∧
      h.start (s.invocationFor h file) = .ok finished ∧
      published (Turn.sent ⟨h, s, .saved document⟩) = [(document, shown)] := by
  cases hfile : document.filePath? with
  | none => exact .inl (published_saved_of_none hfile h s)
  | some file =>
      cases hstart : h.start (s.invocationFor h file) with
      | error cause => exact .inl (published_saved_of_error hfile hstart).1
      | ok finished =>
          obtain ⟨found, _, hpublished⟩ := published_saved_of_ok hfile hstart
          exact .inr ⟨file, finished, forFile found file, rfl, hstart, hpublished⟩

/-! ## one turn -/

namespace Turn

/-- What calls may publish: a close an empty list, a save at most one list, both
for their own document, and any other call nothing.  A save whose compiler cannot
be started publishes nothing, shows one error and changes nothing. -/
structure PublishesForItself (t : Turn) : Prop where
  closed : ∀ document, t.call = .closed document → published t.sent = [(document, [])]
  saved : ∀ document, t.call = .saved document →
    (published t.sent).length ≤ 1 ∧ ∀ p ∈ published t.sent, p.1 = document
  other : (∀ document, t.call ≠ .closed document ∧ t.call ≠ .saved document) →
    published t.sent = []
  failed : ∀ document file cause, t.call = .saved document → document.filePath? = some file →
    t.host.start (t.server.invocationFor t.host file) = .error cause →
    published t.sent = [] ∧ t.sent.countP Outgoing.isError = 1 ∧
      t.after.settings = t.server.settings ∧ t.after.folders = t.server.folders

theorem publishesForItself (t : Turn) : t.PublishesForItself := by
  obtain ⟨host, server, call⟩ := t
  constructor
  · rintro document rfl
    rfl
  · rintro document rfl
    obtain h | ⟨_, _, _, _, _, h⟩ := published_cases_of_saved host server document
    · rw [h]; simp
    · rw [h]; simp
  · intro hother
    cases call with
    | closed document => exact absurd rfl (hother document).1
    | saved document => exact absurd rfl (hother document).2
    | began options folders root => rfl
    | initialized => rfl
    | shutdown => rfl
    | foldersChanged added removed => rfl
    | configurationChanged settings => rfl
    | opened document => rfl
    | changed document => rfl
  · rintro document file cause rfl hfile hstart
    obtain ⟨hnothing, herror⟩ := published_saved_of_error hfile hstart
    have hafter := Server.after_saved host server document
    exact ⟨hnothing, herror, by rw [hafter], by rw [hafter]⟩

/-- The calls that decide what is on display for a document: a close, and a save
of a file on which the compiler can be started. -/
inductive Settles (uri : String) (t : Turn) : Prop where
  | closed {document : Url} (hcall : t.call = .closed document) (huri : document.text = uri)
  | saved {document : Url} {file : Path} {finished : Finished} (hcall : t.call = .saved document)
      (huri : document.text = uri) (hfile : document.filePath? = some file)
      (hstart : t.host.start (t.server.invocationFor t.host file) = .ok finished)

/-- A call that does not decide about a document publishes nothing for it. -/
theorem publishedFor_of_not_settles {uri : String} {t : Turn} (h : ¬ t.Settles uri) :
    publishedFor uri t.sent = [] := by
  have hitself := t.publishesForItself
  have hnothing : published t.sent = [] → publishedFor uri t.sent = [] := fun hnil => by
    rw [publishedFor, hnil]
    rfl
  obtain ⟨host, server, call⟩ := t
  by_cases hclosed : ∃ document, call = .closed document
  · obtain ⟨document, rfl⟩ := hclosed
    have hne : document.text ≠ uri := fun huri => h (.closed rfl huri)
    refine publishedFor_eq_nil ?_ hne
    rw [hitself.closed document rfl]
    simp
  · by_cases hsaved : ∃ document, call = .saved document
    · obtain ⟨document, rfl⟩ := hsaved
      obtain hnil | ⟨file, finished, _, hfile, hstart, _⟩ :=
        published_cases_of_saved host server document
      · exact hnothing hnil
      · have hne : document.text ≠ uri := fun huri => h (.saved rfl huri hfile hstart)
        exact publishedFor_eq_nil (hitself.saved document rfl).2 hne
    · exact hnothing (hitself.other fun document =>
        ⟨fun hcall => hclosed ⟨document, hcall⟩, fun hcall => hsaved ⟨document, hcall⟩⟩)

/-- A close publishes the empty list for its document. -/
theorem publishedFor_of_closed {t : Turn} {document : Url} (hcall : t.call = .closed document) :
    publishedFor document.text t.sent = [[]] :=
  publishedFor_of_published (t.publishesForItself.closed document hcall)

/-- A save publishes the diagnostics of its check, if the compiler can be started. -/
theorem publishedFor_of_saved {t : Turn} {document : Url} {file : Path} {finished : Finished}
    (hcall : t.call = .saved document) (hfile : document.filePath? = some file)
    (hstart : t.host.start (t.server.invocationFor t.host file) = .ok finished) :
    ∃ found, (t.server.diagnose t.host file).value = .ok found ∧
      publishedFor document.text t.sent = [forFile found file] := by
  obtain ⟨host, server, call⟩ := t
  obtain rfl : call = .saved document := hcall
  obtain ⟨found, hfound, hpublished⟩ := published_saved_of_ok hfile hstart
  exact ⟨found, hfound, publishedFor_of_published hpublished⟩

end Turn

/-! ## runs -/

/-- Calls that do not decide about a document publish nothing for it. -/
theorem publishedFor_sentIn_eq_nil {uri : String} {turns : List Turn}
    (h : ∀ t ∈ turns, ¬ t.Settles uri) : publishedFor uri (sentIn turns) = [] := by
  induction turns with
  | nil => rfl
  | cons t turns ih =>
      have ht := Turn.publishedFor_of_not_settles (h t List.mem_cons_self)
      rw [sentIn_cons, publishedFor_append, ht, ih fun t' ht' => h t' (List.mem_cons_of_mem t ht'),
        List.nil_append]

/-- `IsLatest uri turns t`: the turn `t` is the last one that decides about the
document with this URI. -/
def IsLatest (uri : String) (turns : List Turn) (t : Turn) : Prop :=
  ∃ before later, turns = before ++ t :: later ∧ t.Settles uri ∧ ∀ t' ∈ later, ¬ t'.Settles uri

/-- On display is what the latest deciding call has published. -/
theorem displayed_of_isLatest {uri : String} {turns : List Turn} {t : Turn}
    (h : IsLatest uri turns t) {shown : List Editor.Diagnostic}
    (hshown : publishedFor uri t.sent = [shown]) : displayed uri (sentIn turns) = some shown := by
  obtain ⟨before, later, hsplit, _, hlater⟩ := h
  rw [displayed, hsplit, sentIn_append, sentIn_cons, publishedFor_append, publishedFor_append,
    hshown, publishedFor_sentIn_eq_nil hlater, List.append_nil, List.getLast?_concat]

/-- **The latest event decides what is on display.**  After any number of calls,
whatever happens to files and compiler in between: if a document was never
closed, and never saved with a compiler that could be started, nothing was ever
published for it.  If the latest of these events is a close, an empty list is on
display; if it is a save, the diagnostics of its check are.  Each call publishes
for itself. -/
theorem latest_event_is_displayed (s : Server) (steps : List (Host × Call)) (n : Nat) :
    (∀ uri : String,
      ((∀ t ∈ (s.turns steps).take n, ¬ t.Settles uri) →
        publishedFor uri (sentIn ((s.turns steps).take n)) = []) ∧
      ∀ t, IsLatest uri ((s.turns steps).take n) t →
        (∀ document, t.call = .closed document →
          displayed uri (sentIn ((s.turns steps).take n)) = some []) ∧
        ∀ document, t.call = .saved document →
          ∃ file found, document.filePath? = some file ∧
            (t.server.diagnose t.host file).value = .ok found ∧
            displayed uri (sentIn ((s.turns steps).take n)) = some (forFile found file)) ∧
    ∀ t ∈ (s.turns steps).take n, t.PublishesForItself := by
  refine ⟨fun uri => ⟨publishedFor_sentIn_eq_nil, fun t hlatest => ?_⟩,
    fun t _ => t.publishesForItself⟩
  obtain ⟨_, _, _, hsettles, _⟩ := id hlatest
  cases hsettles with
  | closed hcall huri =>
      rw [← huri] at hlatest ⊢
      refine ⟨fun _ _ => displayed_of_isLatest hlatest (Turn.publishedFor_of_closed hcall), ?_⟩
      intro document hsaved
      exact absurd (hcall.symm.trans hsaved) (by simp)
  | @saved document file finished hcall huri hfile hstart =>
      rw [← huri] at hlatest ⊢
      obtain ⟨found, hfound, hpublished⟩ := Turn.publishedFor_of_saved hcall hfile hstart
      constructor
      · intro document' hclosed
        exact absurd (hcall.symm.trans hclosed) (by simp)
      · intro document' hsaved
        obtain rfl : document = document' := Call.saved.inj (hcall.symm.trans hsaved)
        exact ⟨file, found, hfile, hfound, displayed_of_isLatest hlatest hpublished⟩

/-- A machine without files on which every start has the same outcome. -/
def Host.answering (outcome : Except SystemError Finished) : Host where
  files := ⟨.directory [], some []⟩
  start _ := outcome

/-- The document `file:///M`. -/
def documentM : Url := ⟨"file", some "", none, .rooted ["M"], none, none⟩

/-- A document is saved without a compiler, with one, and without one again, and
then it is closed. -/
def unsteadySteps : List (Host × Call) :=
  [(.answering (.error .notFound), .saved documentM),
    (.answering (.ok ⟨.code 1, Text.Utf8.encode "/M:1:e:a"⟩), .saved documentM),
    (.answering (.error .notFound), .saved documentM),
    (.answering (.error .notFound), .closed documentM)]

/-- Without a compiler nothing is on display; then what it has found is, and stays
there while the compiler is missing again; and then the empty list. -/
theorem latest_event_is_displayed_unsteady :
    publishedFor "file:///M" (sentIn (((Server.ofSettings .default).turns unsteadySteps).take 1)) =
        [] ∧
      displayed "file:///M" (sentIn (((Server.ofSettings .default).turns unsteadySteps).take 3)) =
        some [⟨0, 1, .error, "a"⟩] ∧
      displayed "file:///M" (sentIn (((Server.ofSettings .default).turns unsteadySteps).take 4)) =
        some [] := by
  have htext : documentM.text = "file:///M" := by decide +kernel
  have hfile : documentM.filePath? = some ⟨"/M"⟩ := by decide +kernel
  have hmissing : ∀ s : Server, ¬ Turn.Settles "file:///M"
      ⟨.answering (.error .notFound), s, .saved documentM⟩ := by
    intro s h
    cases h with
    | closed hcall _ => contradiction
    | saved _ _ _ hstart => contradiction
  have hrun := latest_event_is_displayed (.ofSettings .default) unsteadySteps
  refine ⟨?_, ?_, ?_⟩
  · apply ((hrun 1).1 "file:///M").1
    intro t ht
    rw [List.mem_singleton.mp ht]
    exact hmissing _
  · have hlatest : IsLatest "file:///M"
        (((Server.ofSettings .default).turns unsteadySteps).take 3)
        ⟨.answering (.ok ⟨.code 1, Text.Utf8.encode "/M:1:e:a"⟩), .ofSettings .default,
          .saved documentM⟩ := by
      refine ⟨[_], [_], rfl, .saved rfl htext hfile rfl, ?_⟩
      intro t ht
      rw [List.mem_singleton.mp ht]
      exact hmissing _
    obtain ⟨file, found, hfile', hfound, hdisplayed⟩ :=
      (((hrun 3).1 "file:///M").2 _ hlatest).2 documentM rfl
    obtain rfl : file = ⟨"/M"⟩ := Option.some.inj (hfile'.symm.trans hfile)
    have hvalue : (Server.diagnose
        (.answering (.ok ⟨.code 1, Text.Utf8.encode "/M:1:e:a"⟩)) (.ofSettings .default)
        ⟨"/M"⟩).value.toOption = some [⟨"e", ⟨"/M"⟩, 1, "a"⟩] := by decide +kernel
    rw [hfound] at hvalue
    rw [hdisplayed, Option.some.inj hvalue]
    decide +kernel
  · have hlatest : IsLatest "file:///M"
        (((Server.ofSettings .default).turns unsteadySteps).take 4)
        ⟨.answering (.error .notFound), .ofSettings .default, .closed documentM⟩ :=
      ⟨[_, _, _], [], rfl, .closed rfl htext, fun t ht => absurd ht List.not_mem_nil⟩
    exact (((hrun 4).1 "file:///M").2 _ hlatest).1 documentM rfl

end ChapelCheck
