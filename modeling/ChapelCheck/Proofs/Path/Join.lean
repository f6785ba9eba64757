import ChapelCheck.Proofs.Path

/-!
# ChapelCheck.Proofs.Path.Join

Paths as a start and pieces, and what becomes of the two when paths are joined.

A start and pieces spell a path (`ofPieces`), and a path is spelled by its own
(`ofPieces_self`).  Everything rests on what one separator more does to a text
that is not empty (`splitStart_append_slash`): the start stays, and the pieces
behind the separator come last.

* `components_join` — the components of a path that is read from a directory are
  those of the directory and then its own;
* `components_child` — an entry of a directory has one component more;
* `isAbsolute_join` — what is read from an absolute path is absolute;
* `components_plain` — plain spelling drops the `.` components and nothing else.
-/

namespace ChapelCheck.Path

open Text

/-! ## a start and pieces -/

/-- One separator more leaves the start of a text as it is. -/
theorem splitStart_append_slash {cs : List Char} (hne : cs ≠ []) (ds : List Char) :
    splitStart (cs ++ '/' :: ds) = ((splitStart cs).1, (splitStart cs).2 ++ '/' :: ds) := by
  fun_cases splitStart cs with
  | case1 => rfl
  | case2 => rfl
  | case3 => rfl
  | case4 _ hroot hdot hhere =>
      -- a start takes up two characters at most
      rcases cs with _ | ⟨c, _ | ⟨d, cs⟩⟩
      · contradiction
      · have hslash : c ≠ '/' := fun h => hroot [] (by rw [h])
        have hc : c ≠ '.' := fun h => hdot (by rw [h])
        exact splitStart_of_head hslash hc _
      · apply splitStart.eq_4
        · intro r hr
          exact hroot (d :: cs) (by rw [(List.cons.inj hr).1])
        · intro hr
          simp at hr
        · intro r hr
          obtain ⟨hc, hr⟩ := List.cons.inj hr
          exact hhere cs (by rw [hc, (List.cons.inj hr).1])

/-- What a separator in a text says about the path: the start is that of the text
before it, and the pieces behind it come last. -/
theorem start_pieces_of_slash {p : Path} {cs ds : List Char} (hne : cs ≠ [])
    (h : p.text.toList = cs ++ '/' :: ds) :
    p.start = (splitStart cs).1 ∧
      p.pieces = Text.pieces '/' (splitStart cs).2 ++ Text.pieces '/' ds := by
  rw [start, pieces, h, splitStart_append_slash hne]
  exact ⟨rfl, pieces_append_cons '/' _ ds⟩

/-- The text of a path is its start and what stands behind that. -/
theorem chars_append_splitStart (cs : List Char) :
    (splitStart cs).1.chars ++ (splitStart cs).2 = cs := by
  rcases splitStart_cases cs with ⟨r, hr, hstart⟩ | ⟨r, hr, hstart⟩ | hstart
  · rw [hstart, hr]; rfl
  · rw [hstart, hr]; rfl
  · rw [hstart]; rfl

theorem splitStart_of_bare {p : Path} (h : p.start = .bare) :
    splitStart p.text.toList = (.bare, p.text.toList) := by
  rw [start] at h
  rcases splitStart_cases p.text.toList with ⟨r, _, hr⟩ | ⟨r, _, hr⟩ | hbare
  · rw [hr] at h; contradiction
  · rw [hr] at h; contradiction
  · exact hbare

/-- A path is what its start and its pieces spell. -/
theorem ofPieces_self (p : Path) : ofPieces p.start p.pieces = p := by
  rw [ofPieces, pieces, joinPieces_pieces, start, chars_append_splitStart, String.ofList_toList]

/-- `Spells s ps`: the path that a start and pieces spell has that start and those
pieces. -/
def Spells (s : Start) (ps : List (List Char)) : Prop :=
  (ofPieces s ps).start = s ∧ (ofPieces s ps).pieces = ps

theorem spells_self (p : Path) : Spells p.start p.pieces := by
  rw [Spells, ofPieces_self]
  exact ⟨rfl, rfl⟩

/-- The first pieces of what is spelled are spelled as well. -/
theorem Spells.of_append {s : Start} {ps qs : List (List Char)} (h : Spells s (ps ++ qs))
    (hps : ps ≠ []) : Spells s ps := by
  by_cases hqs : qs = []
  · rw [hqs, List.append_nil] at h
    exact h
  have htext : s.chars ++ joinPieces '/' (ps ++ qs) =
      (s.chars ++ joinPieces '/' ps) ++ '/' :: joinPieces '/' qs := by
    rw [joinPieces_append '/' hps hqs, List.append_assoc]
  have hslash : ∀ q ∈ qs, '/' ∉ q := by
    intro q hq
    have hmem : q ∈ (ofPieces s (ps ++ qs)).pieces := by
      rw [h.2]
      exact List.mem_append_right ps hq
    exact not_mem_of_mem_pieces hmem
  by_cases hempty : s.chars ++ joinPieces '/' ps = []
  · -- a text that begins with the separator has another start than an empty one
    rw [Spells, ofPieces, htext, hempty, start, String.toList_ofList] at h
    have hroot : Start.root = s := h.1
    rw [← hroot] at hempty
    contradiction
  · obtain ⟨hstart, hpieces⟩ := start_pieces_of_slash (p := ofPieces s (ps ++ qs)) hempty
      (by rw [ofPieces, htext, String.toList_ofList])
    rw [h.2, pieces_joinPieces hqs hslash] at hpieces
    rw [h.1] at hstart
    rw [Spells, start, pieces, ofPieces, String.toList_ofList]
    exact ⟨hstart.symm, (List.append_cancel_right hpieces).symm⟩

/-! ## joining -/

/-- A relative path is written behind a path, with a separator between them unless
there is one already. -/
theorem toList_join {p q : Path} (hq : q.isAbsolute = false) :
    (p.join q).text.toList =
      if p.text = "" ∨ p.text.toList.getLast? = some '/' then p.text.toList ++ q.text.toList
      else p.text.toList ++ '/' :: q.text.toList := by
  rw [join, if_neg (by simp [hq])]
  split
  · rw [String.toList_append]
  · rw [String.toList_append, String.toList_append, List.append_assoc]
    rfl

/-- What is joined to an empty path is taken as it is. -/
theorem join_of_text_eq_empty {p : Path} (hp : p.text = "") (q : Path) : p.join q = q := by
  simp [join, hp]

/-- What is joined to a path keeps the path's start, and its pieces come behind
those of the path. -/
theorem exists_pieces_join {p q : Path} (hq : q.isAbsolute = false)
    (hempty : p.text = "" → q.start = .bare) :
    ∃ ps ends, p.pieces = ps ++ ends ∧ (∀ piece ∈ ends, piece = []) ∧
      (p.join q).start = p.start ∧ (p.join q).pieces = ps ++ Text.pieces '/' q.text.toList := by
  have hnone : ∀ piece ∈ ([] : List (List Char)), piece = [] := fun _ h => absurd h List.not_mem_nil
  have hone : ∀ piece ∈ ([[]] : List (List Char)), piece = [] := fun _ => List.mem_singleton.mp
  have htext := toList_join (p := p) hq
  by_cases hp : p.text = ""
  · have hbare := splitStart_of_bare (hempty hp)
    rw [if_pos (.inl hp), hp, String.toList_empty, List.nil_append] at htext
    refine ⟨[], [[]], ?_, hone, ?_, ?_⟩
    · rw [pieces, hp]; rfl
    · rw [start, htext, hbare, start, hp]; rfl
    · rw [pieces, htext, hbare]; rfl
  have hne : p.text.toList ≠ [] := fun h => hp (String.toList_inj.mp h)
  by_cases hend : p.text.toList.getLast? = some '/'
  · obtain ⟨cs, hcs⟩ := List.getLast?_eq_some_iff.mp hend
    rw [if_pos (.inr hend), hcs, List.append_assoc, List.singleton_append] at htext
    cases cs with
    | nil =>
      refine ⟨[], [[]], ?_, hone, ?_, ?_⟩
      · rw [pieces, hcs]; rfl
      · rw [start, htext, start, hcs]; rfl
      · rw [pieces, htext]; rfl
    | cons c cs =>
      have hcne := List.cons_ne_nil c cs
      obtain ⟨hstart, hpieces⟩ := start_pieces_of_slash hcne hcs
      obtain ⟨hstart', hpieces'⟩ := start_pieces_of_slash hcne htext
      exact ⟨_, [[]], hpieces, hone, hstart'.trans hstart.symm, hpieces'⟩
  · rw [if_neg (by simp [hp, hend])] at htext
    obtain ⟨hstart, hpieces⟩ := start_pieces_of_slash hne htext
    exact ⟨p.pieces, [], (List.append_nil _).symm, hnone, hstart, hpieces⟩

/-! ## components -/

/-- A piece stands for a name or for `..`, if for anything. -/
theorem pieceComponent_ne {piece : List Char} {c : Component} (h : pieceComponent piece = some c) :
    c ≠ .here ∧ c ≠ .root := by
  revert h
  fun_cases pieceComponent piece <;> rintro ⟨⟩ <;> simp

theorem ne_of_mem_filterMap_pieceComponent {ps : List (List Char)} {c : Component}
    (h : c ∈ ps.filterMap pieceComponent) : c ≠ .here ∧ c ≠ .root := by
  obtain ⟨piece, _, hpiece⟩ := List.mem_filterMap.mp h
  exact pieceComponent_ne hpiece

/-- Empty pieces stand for nothing. -/
theorem filterMap_pieceComponent_ends {ends : List (List Char)} (h : ∀ piece ∈ ends, piece = []) :
    ends.filterMap pieceComponent = [] := by
  rw [List.filterMap_eq_nil_iff]
  intro piece hpiece
  rw [h piece hpiece]
  rfl

/-- What pieces stand for is no `.`. -/
theorem filter_filterMap_pieceComponent (ps : List (List Char)) :
    (ps.filterMap pieceComponent).filter (· ≠ .here) = ps.filterMap pieceComponent := by
  rw [List.filter_eq_self]
  intro c hc
  exact decide_eq_true (ne_of_mem_filterMap_pieceComponent hc).1

/-- Behind another path a relative path means its components, and a `.` at its
start means nothing. -/
theorem filterMap_pieces_text {q : Path} (hq : q.isAbsolute = false) :
    (Text.pieces '/' q.text.toList).filterMap pieceComponent =
      q.components.filter (· ≠ .here) := by
  rw [isAbsolute, start] at hq
  rw [components, start, pieces]
  generalize q.text.toList = cs at hq ⊢
  fun_cases splitStart cs with
  | case1 cs => simp [splitStart] at hq
  | case2 => rfl
  | case3 cs =>
      -- the dot is a piece that stands for nothing, and so is what stands before the separator
      have hpieces : Text.pieces '/' ('.' :: '/' :: cs) = ['.'] :: Text.pieces '/' cs :=
        pieces_append_cons '/' ['.'] cs
      rw [hpieces, pieces_cons_self, List.filterMap_cons_none rfl, List.filterMap_cons_none rfl,
        List.filter_append, filter_filterMap_pieceComponent]
      rfl
  | case4 => rw [List.filter_append, filter_filterMap_pieceComponent]; rfl

/-- **Components of joined paths**: those of the first, and then those of the
second, in which a `.` means nothing. -/
theorem components_join {p q : Path} (hq : q.isAbsolute = false)
    (hempty : p.text = "" → q.start = .bare) :
    (p.join q).components = p.components ++ q.components.filter (· ≠ .here) := by
  obtain ⟨ps, ends, hpieces, hends, hstart, hjoined⟩ := exists_pieces_join hq hempty
  rw [components, components, hstart, hjoined, hpieces, List.filterMap_append,
    List.filterMap_append, filterMap_pieceComponent_ends hends, List.append_nil,
    filterMap_pieces_text hq, List.append_assoc]

/-! ## spellings of a path -/

/-- Behind a separator come the components of the pieces there. -/
theorem components_append_slash {cs : List Char} (hne : cs ≠ []) (ds : List Char) :
    components ⟨String.ofList (cs ++ '/' :: ds)⟩ =
      components ⟨String.ofList cs⟩ ++ (Text.pieces '/' ds).filterMap pieceComponent := by
  obtain ⟨hstart, hpieces⟩ := start_pieces_of_slash (p := ⟨String.ofList (cs ++ '/' :: ds)⟩) hne
    String.toList_ofList
  rw [components, hstart, hpieces, List.filterMap_append, ← List.append_assoc, components, start,
    pieces, String.toList_ofList]

/-- A second separator says nothing. -/
theorem components_slash_slash (cs ds : List Char) :
    components ⟨String.ofList (cs ++ '/' :: '/' :: ds)⟩ =
      components ⟨String.ofList (cs ++ '/' :: ds)⟩ := by
  by_cases hcs : cs = []
  · simp only [hcs, List.nil_append, components, start, pieces, String.toList_ofList, splitStart]
    rw [pieces_cons_self, List.filterMap_cons_none rfl]
  · rw [components_append_slash hcs, components_append_slash hcs, pieces_cons_self,
      List.filterMap_cons_none rfl]

/-- A `.` before a relative path is one component more. -/
theorem components_dot_slash {q : Path} (hq : q.isAbsolute = false) :
    components ⟨String.ofList ('.' :: '/' :: q.text.toList)⟩ =
      .here :: q.components.filter (· ≠ .here) := by
  rw [← filterMap_pieces_text hq]
  simp only [components, start, pieces, String.toList_ofList, splitStart]
  rw [pieces_cons_self, List.filterMap_cons_none rfl]
  rfl

/-! ## entries of a directory -/

/-- What something in a directory can be called. -/
def IsName (name : String) : Prop :=
  name ≠ "" ∧ name ≠ "." ∧ name ≠ ".." ∧ '/' ∉ name.toList

instance (name : String) : Decidable (IsName name) := inferInstanceAs (Decidable (_ ∧ _))

section

variable {name : String} (hname : IsName name)
include hname

theorem pieceComponent_of_isName : pieceComponent name.toList = some (.name name) := by
  obtain ⟨hempty, hdot, hdots, _⟩ := hname
  rw [pieceComponent.eq_4, String.ofList_toList]
  · exact fun h => hempty (String.toList_inj.mp h)
  · exact fun h => hdot (String.toList_inj.mp h)
  · exact fun h => hdots (String.toList_inj.mp h)

theorem start_of_isName : start ⟨name⟩ = .bare := by
  obtain ⟨_, hdot, _, hslash⟩ := hname
  rw [start]
  generalize hcs : name.toList = cs at hslash
  fun_cases splitStart cs with
  | case1 => simp at hslash
  | case2 => exact absurd (String.toList_inj.mp hcs) hdot
  | case3 => simp at hslash
  | case4 => rfl

theorem isAbsolute_of_isName : isAbsolute ⟨name⟩ = false := by
  rw [isAbsolute, start_of_isName hname]
  rfl

/-- An entry of a directory is one piece more. -/
theorem exists_pieces_child (p : Path) :
    ∃ ps ends, p.pieces = ps ++ ends ∧ (∀ piece ∈ ends, piece = []) ∧
      (p.child name).start = p.start ∧ (p.child name).pieces = ps ++ [name.toList] := by
  have h := exists_pieces_join (p := p) (isAbsolute_of_isName hname)
    fun _ => start_of_isName hname
  rwa [pieces_of_not_mem hname.2.2.2] at h

/-- An entry of a directory is one component more. -/
theorem components_child (p : Path) : (p.child name).components = p.components ++ [.name name] := by
  obtain ⟨ps, ends, hpieces, hends, hstart, hchild⟩ := exists_pieces_child hname p
  rw [components, components, hstart, hchild, hpieces, List.filterMap_append,
    List.filterMap_append, filterMap_pieceComponent_ends hends, List.append_nil,
    List.filterMap_cons_some (pieceComponent_of_isName hname), List.filterMap_nil,
    List.append_assoc]

end

/-! ## absolute paths -/

/-- The start of a path can be told from its components. -/
theorem mem_components_iff {p : Path} :
    (.root ∈ p.components ↔ p.start = .root) ∧ (.here ∈ p.components ↔ p.start = .here) := by
  have hroot : .root ∉ p.pieces.filterMap pieceComponent :=
    fun hmem => (ne_of_mem_filterMap_pieceComponent hmem).2 rfl
  have hhere : .here ∉ p.pieces.filterMap pieceComponent :=
    fun hmem => (ne_of_mem_filterMap_pieceComponent hmem).1 rfl
  rw [components, List.mem_append, List.mem_append, or_iff_left hroot, or_iff_left hhere]
  cases p.start <;> simp [Start.components]

/-- A path is absolute exactly if the root is one of its components. -/
theorem isAbsolute_iff {p : Path} : p.isAbsolute = true ↔ .root ∈ p.components := by
  rw [isAbsolute, decide_eq_true_iff, mem_components_iff.1]

theorem Same.isAbsolute_eq {p q : Path} (h : p.Same q) : p.isAbsolute = q.isAbsolute := by
  rw [Bool.eq_iff_iff, isAbsolute_iff, isAbsolute_iff, h]

theorem text_ne_empty_of_isAbsolute {p : Path} (hp : p.isAbsolute = true) : p.text ≠ "" := by
  intro h
  rw [isAbsolute, start, h] at hp
  contradiction

/-- What is read from an absolute path is absolute. -/
theorem isAbsolute_join {p : Path} (hp : p.isAbsolute = true) (q : Path) :
    (p.join q).isAbsolute = true := by
  cases hq : q.isAbsolute with
  | true => rw [join, if_pos hq, hq]
  | false =>
      obtain ⟨_, _, _, _, hstart, _⟩ := exists_pieces_join hq fun h =>
        absurd h (text_ne_empty_of_isAbsolute hp)
      rw [isAbsolute, hstart]
      exact hp

/-- What is read from a relative path is relative, if it is relative itself. -/
theorem isAbsolute_join_eq_false {p q : Path} (hp : p.isAbsolute = false)
    (hq : q.isAbsolute = false) : (p.join q).isAbsolute = false := by
  by_cases hempty : p.text = ""
  · rw [join_of_text_eq_empty hempty, hq]
  · obtain ⟨_, _, _, _, hstart, _⟩ := exists_pieces_join hq fun h => absurd h hempty
    rw [isAbsolute, hstart]
    exact hp

/-! ## plain spelling -/

/-- A piece that stands for a name is one. -/
theorem isName_of_pieceComponent {piece : List Char} {name : String}
    (h : pieceComponent piece = some (.name name)) (hslash : '/' ∉ piece) : IsName name := by
  have hpiece := eq_toList_of_pieceComponent h
  rw [hpiece] at h hslash
  refine ⟨?_, ?_, ?_, hslash⟩
  all_goals
    rintro rfl
    contradiction

theorem components_of_isName {name : String} (hname : IsName name) :
    components ⟨name⟩ = [.name name] := by
  rw [components, pieces, splitStart_of_bare (start_of_isName hname), start_of_isName hname,
    pieces_of_not_mem hname.2.2.2, List.filterMap_cons_some (pieceComponent_of_isName hname)]
  rfl

/-- A component that a piece stands for is a path of its own. -/
theorem components_text_of_mem {p : Path} {c : Component}
    (h : c ∈ p.pieces.filterMap pieceComponent) :
    start ⟨c.text⟩ = .bare ∧ components ⟨c.text⟩ = [c] := by
  obtain ⟨piece, hmem, hpiece⟩ := List.mem_filterMap.mp h
  cases c with
  | root => exact absurd rfl (pieceComponent_ne hpiece).2
  | here => exact absurd rfl (pieceComponent_ne hpiece).1
  | up => decide
  | name text =>
      have hname := isName_of_pieceComponent hpiece (not_mem_of_mem_pieces hmem)
      exact ⟨start_of_isName hname, components_of_isName hname⟩

/-- Components are spelled out one behind the other. -/
theorem components_foldl_join {cs : List Component}
    (h : ∀ c ∈ cs, start ⟨c.text⟩ = .bare ∧ components ⟨c.text⟩ = [c]) (p : Path) :
    (cs.foldl (fun p c => p.join ⟨c.text⟩) p).components = p.components ++ cs := by
  induction cs generalizing p with
  | nil => exact (List.append_nil p.components).symm
  | cons c cs ih =>
      rw [List.forall_mem_cons] at h
      obtain ⟨⟨hstart, hcomponents⟩, hrest⟩ := h
      have hrelative : isAbsolute ⟨c.text⟩ = false := by rw [isAbsolute, hstart]; rfl
      have hhere : c ≠ .here := by
        rintro rfl
        contradiction
      have hfirst := components_join (p := p) hrelative fun _ => hstart
      rw [hcomponents, List.filter_cons_of_pos (by simpa using hhere), List.filter_nil] at hfirst
      rw [List.foldl_cons, ih hrest, hfirst, List.append_assoc, List.singleton_append]

/-- The plain spelling of a path has its components, less the `.` at its start. -/
theorem components_plain (p : Path) : p.plain.components = p.components.filter (· ≠ .here) := by
  have hspelled := components_foldl_join fun c => components_text_of_mem (p := p) (c := c)
  have hfilter : p.components.filter (· ≠ .here) =
      p.start.components.filter (· ≠ .here) ++ p.pieces.filterMap pieceComponent := by
    rw [components, List.filter_append, filter_filterMap_pieceComponent]
  rw [plain, hfilter]
  cases p.start with
  | root => exact hspelled ⟨"/"⟩
  | here => exact hspelled ⟨""⟩
  | bare => exact hspelled ⟨""⟩

/-- A path that is read from a directory less its `.` components. -/
theorem components_join_plain (root q : Path) :
    (root.join q.plain).components =
      (if q.isAbsolute then [] else root.components) ++ q.components.filter (· ≠ .here) := by
  have habsolute : q.plain.isAbsolute = q.isAbsolute := by
    rw [Bool.eq_iff_iff, isAbsolute_iff, isAbsolute_iff, components_plain]
    simp
  cases hq : q.isAbsolute with
  | true =>
      rw [join, habsolute, if_pos hq, components_plain]
      rfl
  | false =>
      have hroot : .root ∉ q.plain.components := by
        rw [← isAbsolute_iff, habsolute, hq]
        exact Bool.false_ne_true
      have hhere : .here ∉ q.plain.components := by simp [components_plain]
      have hbare : q.plain.start = .bare := by
        rw [mem_components_iff.1] at hroot
        rw [mem_components_iff.2] at hhere
        cases hstart : q.plain.start with
        | root => exact absurd hstart hroot
        | here => exact absurd hstart hhere
        | bare => rfl
      rw [components_join (habsolute.trans hq) fun _ => hbare, components_plain, List.filter_filter]
      simp

end ChapelCheck.Path
