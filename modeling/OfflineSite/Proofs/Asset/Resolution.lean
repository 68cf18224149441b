import Mathlib.Data.List.TakeWhile
import OfflineSite.Proofs.Asset.ContentRoot
import OfflineSite.Proofs.Path.Extension

namespace OfflineSite

namespace Path

/-- What leads a path is settled by its first piece and by whether another comes after it. -/
theorem leadOf_cons_append (first : List Char) {front other : List (List Char)} (some : front ≠ [])
    (someToo : other ≠ []) : leadOf (first :: front) = leadOf (first :: other) := by
  cases front with
  | nil => exact absurd rfl some
  | cons =>
    cases other with
    | nil => exact absurd rfl someToo
    | cons =>
      by_cases empty : first = []
      · subst empty
        rfl
      · by_cases here : first = ['.']
        · subst here
          rfl
        · rw [leadOf_cons empty here, leadOf_cons empty here]

theorem leadOf_concat {pieces : List (List Char)} (some : pieces ≠ []) (nonempty : pieces ≠ [[]])
    (last : List Char) : leadOf (pieces ++ [last]) = leadOf pieces := by
  match pieces with
  | [] => exact absurd rfl some
  | first :: second :: rest => exact leadOf_cons_append first (by simp) (by simp)
  | [first] =>
    have empty : first ≠ [] := fun same => nonempty (by rw [same])
    by_cases here : first = ['.']
    · subst here
      rfl
    · rw [List.singleton_append, leadOf_cons empty here, leadOf_cons empty here]

/-- A plain name that is appended to a path adds itself to the components and nothing else. -/
theorem components_push {part : List Char} (plain : Plain part) (base : String) :
    components (push base (String.ofList part)) = components base ++ [.name part] := by
  have single : Split.pieces (· == '/') part = [part] :=
    Split.pieces_eq_singleton fun c inside => beq_eq_false_iff_ne.mpr fun same =>
      plain.noSeparator (same ▸ inside)
  have added (front : List Char) : Split.pieces (· == '/') (front ++ '/' :: part) =
      Split.pieces (· == '/') front ++ [part] := by
    rw [@Split.pieces_append _ (· == '/') '/' rfl, single]
  have notAbsolute := plain.isAbsolute
  cases last : base.toList.getLast? with
  | none =>
    obtain rfl : base = "" := String.toList_eq_nil_iff.mp (List.getLast?_eq_none_iff.mp last)
    have text : (push "" (String.ofList part)).toList = part := by simp [push, notAbsolute]
    have read := @components_of_pieces _ [] [] _ plain (by rw [text, single, List.nil_append])
      (by simp)
    rw [read, List.nil_append, leadOf_cons plain.nonempty plain.ne_here]
    rfl
  | some c =>
    by_cases ends : c = '/'
    · subst ends
      obtain ⟨front, whole⟩ := List.getLast?_eq_some_iff.mp last
      have text : (push base (String.ofList part)).toList = front ++ '/' :: part := by
        simp [push, notAbsolute, whole]
      have before : Split.pieces (· == '/') base.toList = Split.pieces (· == '/') front ++ [[]] := by
        rw [whole, @Split.pieces_append _ (· == '/') '/' rfl]
        rfl
      obtain ⟨first, others, cut⟩ :=
        List.exists_cons_of_ne_nil (Split.pieces_ne_nil (· == '/') front)
      have read := @components_of_pieces _ _ [] _ plain (text ▸ added front) (by simp)
      have lead := @leadOf_cons_append first (others ++ [part]) (others ++ [[]]) (by simp) (by simp)
      rw [read, components_eq base, before, cut, List.cons_append, List.cons_append, lead,
        ← List.cons_append, List.filterMap_append]
      have nothing : [[]].filterMap Component.ofPiece? = [] := rfl
      rw [nothing, List.append_nil]
    · have text : (push base (String.ofList part)).toList = base.toList ++ '/' :: part := by
        simp [push, notAbsolute, last, ends]
      have nonempty : Split.pieces (· == '/') base.toList ≠ [[]] := by
        intro alone
        have nothing := Split.join_pieces '/' base.toList
        rw [alone] at nothing
        rw [← nothing] at last
        cases last
      have read := @components_of_pieces _ _ [] _ plain (text ▸ added base.toList) (by simp)
      rw [read, components_eq base, leadOf_concat (Split.pieces_ne_nil _ _) nonempty]

end Path

namespace Asset

open OfflineSite.Path (Component Plain)

/-- What a request path names: what is left of it after its leading slashes, or the default
document where nothing is left. -/
def named (path defaultDocument : String) : String :=
  let rest := String.ofList (path.toList.dropWhile (· == '/'))
  if rest = "" then defaultDocument else rest

/-- The pieces of a text between slashes. -/
def segments (text : String) : List (List Char) := Split.pieces (· == '/') text.toList

/-- The segments that count. -/
def names (text : String) : List (List Char) :=
  (segments text).filter fun segment => segment ≠ [] ∧ segment ≠ ['.']

/-- A path with a name put after it, and a slash between the two unless there is nothing before
the name or a slash already. -/
def place (base : String) (name : List Char) : String :=
  if base = "" ∨ base.toList.getLast? = some '/' then base ++ String.ofList name
  else base ++ "/" ++ String.ofList name

theorem push_eq_place {part : List Char} (plain : Plain part) (base : String) :
    Path.push base (String.ofList part) = place base part := by
  have ends : base.toList.getLast?.all (· == '/') =
      decide (base = "" ∨ base.toList.getLast? = some '/') := by
    rw [Bool.eq_iff_iff, decide_eq_true_iff, ← String.toList_eq_nil_iff,
      ← List.getLast?_eq_none_iff]
    cases base.toList.getLast? <;> simp
  simp only [Path.push, plain.isAbsolute, Bool.false_eq_true, if_false, ends, decide_eq_true_iff,
    place]

theorem plain_of_mem_names {text : String} (noParent : ['.', '.'] ∉ segments text)
    {name : List Char} (listed : name ∈ names text) : Plain name := by
  obtain ⟨cut, counts⟩ := List.mem_filter.mp listed
  obtain ⟨nonempty, notHere⟩ := of_decide_eq_true counts
  exact ⟨nonempty, notHere, fun same => noParent (same ▸ cut), Path.separator_not_mem_pieces cut⟩

/-- A walk along segments stops at the first `..` and else takes the names one by one. -/
theorem descend_segments {list : List (List Char)} (free : ∀ segment ∈ list, '/' ∉ segment)
    (root : String) :
    descend root (list.filterMap Component.ofPiece?) =
      if ['.', '.'] ∈ list then none
      else some ((list.filter fun segment => segment ≠ [] ∧ segment ≠ ['.']).foldl
        place root) := by
  induction list generalizing root with
  | nil => simp [descend]
  | cons segment rest ih =>
    have later := ih fun other listed => free other (List.mem_cons_of_mem segment listed)
    by_cases up : segment = ['.', '.']
    · subst up
      simp [Component.ofPiece?, descend]
    · have further : ['.', '.'] ∈ segment :: rest ↔ ['.', '.'] ∈ rest := by simp [Ne.symm up]
      simp only [further]
      by_cases skipped : segment = [] ∨ segment = ['.']
      · have dropped : ¬ (segment ≠ [] ∧ segment ≠ ['.']) := fun counts =>
          skipped.elim counts.1 counts.2
        rw [List.filterMap_cons_none (Path.ofPiece?_eq_none.mpr skipped), later root,
          List.filter_cons_of_neg (by simpa using dropped)]
      · obtain ⟨nonempty, notHere⟩ := not_or.mp skipped
        have plain : Plain segment := ⟨nonempty, notHere, up, free segment List.mem_cons_self⟩
        rw [List.filterMap_cons_some plain.ofPiece?, descend, push_eq_place plain, later,
          List.filter_cons_of_pos (by simp [nonempty, notHere]), List.foldl_cons]

/-- What leads a path stops a walk if it is a slash, and else counts for nothing. -/
theorem descend_lead (text : String) (steps : List Component) (root : String) :
    descend root (Path.lead text.toList ++ steps) =
      if Path.isAbsolute text then none else descend root steps := by
  unfold Path.lead Path.isAbsolute
  split
  · next same => simp [same, descend]
  · next same => simp [same, descend]
  · next same => simp [same, descend]
  · next noSlash _ _ =>
    have notAbsolute : text.toList.head? ≠ some '/' := fun leads => by
      obtain ⟨rest, whole⟩ := List.head?_eq_some_iff.mp leads
      exact noSlash rest whole
    simp [notAbsolute]

/-- A name that begins with a slash is refused, and any other is walked along. -/
theorem resolve_named (root path defaultDocument : String) :
    resolve root path defaultDocument =
      if Path.isAbsolute (named path defaultDocument) ∨
        ['.', '.'] ∈ segments (named path defaultDocument) then none
      else some ((names (named path defaultDocument)).foldl place root) := by
  have whole : resolve root path defaultDocument =
      descend root (Path.components (named path defaultDocument)) := rfl
  rw [whole]
  generalize named path defaultDocument = text
  have walk := descend_segments (fun _ => @Path.separator_not_mem_pieces text.toList _) root
  rw [Path.components, descend_lead, walk]
  by_cases absolute : Path.isAbsolute text
  · simp [absolute]
  · simp only [absolute, Bool.false_eq_true, if_false, false_or]
    rfl

theorem components_place {list : List (List Char)} (plain : ∀ name ∈ list, Plain name)
    (root : String) :
    Path.components (list.foldl place root) = Path.components root ++ list.map .name := by
  induction list generalizing root with
  | nil => simp
  | cons name rest ih =>
    have first := plain name List.mem_cons_self
    rw [List.foldl_cons, ih fun other listed => plain other (List.mem_cons_of_mem name listed),
      ← push_eq_place first, Path.components_push first]
    simp

theorem named_of_slashes {path : String} (slashes : ∀ c ∈ path.toList, c = '/')
    (defaultDocument : String) : named path defaultDocument = defaultDocument := by
  have nothing : path.toList.dropWhile (· == '/') = [] := by
    simpa [List.dropWhile_eq_nil_iff] using slashes
  simp [named, nothing]

/-- Only a default document can begin with a slash. -/
theorem slashes_of_isAbsolute_named {path defaultDocument : String}
    (absolute : Path.isAbsolute (named path defaultDocument)) :
    named path defaultDocument = defaultDocument ∧ ∀ c ∈ path.toList, c = '/' := by
  by_cases nothing : path.toList.dropWhile (· == '/') = []
  · have slashes : ∀ c ∈ path.toList, c = '/' := by
      simpa [List.dropWhile_eq_nil_iff] using nothing
    exact ⟨named_of_slashes slashes defaultDocument, slashes⟩
  · have rest : named path defaultDocument =
        String.ofList (path.toList.dropWhile (· == '/')) := by simp [named, nothing]
    rw [rest, Path.isAbsolute, String.toList_ofList, beq_iff_eq] at absolute
    exact absurd absolute (Split.head?_dropWhile_ne path.toList)

theorem named_slash_append {defaultDocument : String}
    (relative : Path.isAbsolute defaultDocument = false) :
    named ("/" ++ defaultDocument) defaultDocument = defaultDocument := by
  have noSlash : defaultDocument.toList.head? ≠ some '/' := by simpa [Path.isAbsolute] using relative
  have rest : ("/" ++ defaultDocument).toList.dropWhile (· == '/') = defaultDocument.toList := by
    rw [String.toList_append]
    exact (List.dropWhile_cons_of_pos rfl).trans (Split.dropWhile_eq_self noSlash)
  simp only [named, rest, String.ofList_toList, ite_self]

/-- Which request paths are resolved and to what. A path is refused exactly when the name it stands
for begins with a slash, as only a default document can, or has `..` among its segments. Any other
leads from the root down the segments that count, so the file lies under the root and has no `..`
after it. A path of slashes alone stands for the default document, as if that were asked for. -/
theorem resolve_by_segments (root path defaultDocument : String) :
    (resolve root path defaultDocument = none ↔
      Path.isAbsolute (named path defaultDocument) ∨
        ['.', '.'] ∈ segments (named path defaultDocument)) ∧
    (Path.isAbsolute (named path defaultDocument) →
      named path defaultDocument = defaultDocument ∧ ∀ c ∈ path.toList, c = '/') ∧
    (∀ file, resolve root path defaultDocument = some file →
      file = (names (named path defaultDocument)).foldl place root ∧
      root.toList <+: file.toList ∧
      Path.components file =
        Path.components root ++ (names (named path defaultDocument)).map .name ∧
      ∀ name ∈ names (named path defaultDocument), Plain name) ∧
    (Path.isAbsolute defaultDocument = false → (∀ c ∈ path.toList, c = '/') →
      resolve root path defaultDocument =
        resolve root ("/" ++ defaultDocument) defaultDocument) := by
  refine ⟨?_, slashes_of_isAbsolute_named, fun file resolved => ?_, fun relative slashes => ?_⟩
  · rw [resolve_named]
    split <;> simp [*]
  · have within := (below_of_resolve resolved).isPrefix
    rw [resolve_named] at resolved
    split at resolved
    · cases resolved
    · next accepted =>
      have plain : ∀ name ∈ names (named path defaultDocument), Plain name := fun _ =>
        plain_of_mem_names fun parent => accepted (Or.inr parent)
      obtain rfl := Option.some.inj resolved
      exact ⟨rfl, within, components_place plain root, plain⟩
  · rw [resolve_named, resolve_named, named_of_slashes slashes, named_slash_append relative]

theorem slashes_resolve_to_document :
    resolve "/srv/site" "//" "docs/./home.html" = some "/srv/site/docs/home.html" ∧
      resolve "/srv/site" "//" "docs/./home.html" =
        resolve "/srv/site" ("/" ++ "docs/./home.html") "docs/./home.html" ∧
      resolve "/srv/site" "//" "/etc/passwd" = none := by
  have grammar := resolve_by_segments "/srv/site" "//"
  exact ⟨by decide +kernel, (grammar _).2.2.2 (by decide +kernel) (by simp),
    (grammar _).1.mpr (by decide +kernel)⟩

end Asset

end OfflineSite
