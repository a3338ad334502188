import Mathlib.Data.List.Basic

/-!
POSIX paths as lists of characters: normalisation and `join` as Node's `path.posix`
computes them, and the place of the file tree a path names. A place is absolute or
relative and is given by its normalised segments, so two spellings of one file are
one place. Symbolic links are not followed.
-/

namespace Posix

abbrev Segment := List Char

/-- A segment that names an entry: not empty, `.` or `..`. -/
def Plain (s : Segment) : Prop := s ≠ [] ∧ s ≠ ['.'] ∧ s ≠ ['.', '.']

instance (s : Segment) : Decidable (Plain s) := inferInstanceAs (Decidable (_ ∧ _ ∧ _))

/-- One segment on the stack of open directories, innermost first. -/
def pushSegment (absolute : Bool) (stack : List Segment) (s : Segment) : List Segment :=
  if s = [] ∨ s = ['.'] then stack
  else if s = ['.', '.'] then
    match stack with
    | [] => if absolute then [] else [s]
    | top :: rest => if top = ['.', '.'] then s :: stack else rest
  else s :: stack

def normalizeSegments (absolute : Bool) (segments : List Segment) : List Segment :=
  (segments.foldl (pushSegment absolute) []).reverse

def isAbsolute (path : List Char) : Bool := path.head? == some '/'

def normalize (path : List Char) : List Char :=
  if path = [] then ['.']
  else
    let body := ['/'].intercalate (normalizeSegments (isAbsolute path) (path.splitOn '/'))
    let trailing := path.getLast? == some '/'
    if body = [] then
      if isAbsolute path then ['/'] else if trailing then ['.', '/'] else ['.']
    else
      (if isAbsolute path then ['/'] else []) ++ body ++ (if trailing then ['/'] else [])

def join (parts : List (List Char)) : List Char :=
  match parts.filter (fun p => p ≠ []) with
  | [] => ['.']
  | ps => normalize (['/'].intercalate ps)

structure Place where
  absolute : Bool
  segments : List Segment
  deriving DecidableEq, Repr

/-- The place a path names, relative to the working directory or to the root. -/
def locate (path : List Char) : Place :=
  ⟨isAbsolute path, normalizeSegments (isAbsolute path) (path.splitOn '/')⟩

/-- The directory a place is an entry of. -/
def Place.parent (p : Place) : Place := { p with segments := p.segments.dropLast }

/-- The entry `s` of a directory. -/
def Place.child (p : Place) (s : Segment) : Place := { p with segments := p.segments ++ [s] }

@[simp] theorem Place.parent_child (p : Place) (s : Segment) : (p.child s).parent = p := by
  simp [Place.parent, Place.child]

theorem Place.child_inj {p q : Place} {s t : Segment} :
    p.child s = q.child t ↔ p = q ∧ s = t := by
  obtain ⟨a, xs⟩ := p
  obtain ⟨b, ys⟩ := q
  simp [Place.child, and_assoc]

/-- Strictly inside the directory `q`: some plain steps down from it. -/
def Place.Beneath (p q : Place) : Prop :=
  p.absolute = q.absolute ∧
    ∃ down, down ≠ [] ∧ (∀ s ∈ down, Plain s) ∧ p.segments = q.segments ++ down

def Place.Within (p q : Place) : Prop := p = q ∨ p.Beneath q

theorem Place.within_of_segments {p q : Place} (absolute : p.absolute = q.absolute)
    {down : List Segment} (plain : ∀ s ∈ down, Plain s)
    (segments : p.segments = q.segments ++ down) : p.Within q := by
  cases down with
  | nil =>
      left
      obtain ⟨a, xs⟩ := p
      obtain ⟨b, ys⟩ := q
      rw [List.append_nil] at segments
      exact Place.mk.injEq .. ▸ ⟨absolute, segments⟩
  | cons s rest => exact Or.inr ⟨absolute, s :: rest, List.cons_ne_nil s rest, plain, segments⟩

/-- Stacks the machine can build: `..` only under nothing but `..`, and only when relative. -/
def Normal (absolute : Bool) : List Segment → Prop
  | [] => True
  | s :: rest => Normal absolute rest ∧
      (Plain s ∨ s = ['.', '.'] ∧ absolute = false ∧ ∀ r ∈ rest, r = ['.', '.'])

theorem normal_push (absolute : Bool) {stack : List Segment} (h : Normal absolute stack)
    (s : Segment) : Normal absolute (pushSegment absolute stack s) := by
  unfold pushSegment
  split
  · exact h
  · rename_i skip
    split
    · rename_i up
      cases stack with
      | nil =>
          cases absolute with
          | true => trivial
          | false => exact ⟨trivial, Or.inr ⟨up, rfl, fun r hr => by cases hr⟩⟩
      | cons top rest =>
          simp only
          split
          · rename_i htop
            refine ⟨h, Or.inr ⟨up, ?_⟩⟩
            cases h.2 with
            | inl plain => exact absurd htop plain.2.2
            | inr dots =>
                refine ⟨dots.2.1, ?_⟩
                intro r hr
                cases List.mem_cons.mp hr with
                | inl e => exact e ▸ htop
                | inr e => exact dots.2.2 r e
          · exact h.1
    · rename_i notUp
      rw [not_or] at skip
      exact ⟨h, Or.inl ⟨skip.1, skip.2, notUp⟩⟩

theorem normal_foldl (absolute : Bool) (segments : List Segment) {stack : List Segment}
    (h : Normal absolute stack) :
    Normal absolute (segments.foldl (pushSegment absolute) stack) := by
  induction segments generalizing stack with
  | nil => exact h
  | cons s rest ih => exact ih (normal_push absolute h s)

/-- Feeding a normal stack back to the machine rebuilds it. -/
theorem foldl_reverse_of_normal (absolute : Bool) {stack : List Segment}
    (h : Normal absolute stack) :
    stack.reverse.foldl (pushSegment absolute) [] = stack := by
  induction stack with
  | nil => rfl
  | cons s rest ih =>
      rw [List.reverse_cons, List.foldl_append, ih h.1, List.foldl_cons, List.foldl_nil]
      cases h.2 with
      | inl plain => simp [pushSegment, plain.1, plain.2.1, plain.2.2]
      | inr dots =>
          obtain ⟨rfl, rfl, below⟩ := dots
          cases rest with
          | nil => rfl
          | cons top rest => simp [pushSegment, below top (by simp)]

theorem normalizeSegments_append (absolute : Bool) (xs ys : List Segment) :
    normalizeSegments absolute (xs ++ ys) =
      normalizeSegments absolute (normalizeSegments absolute xs ++ ys) := by
  have start : Normal absolute [] := trivial
  have built := foldl_reverse_of_normal absolute (normal_foldl absolute xs start)
  unfold normalizeSegments
  rw [List.foldl_append, List.foldl_append, built]

theorem normalizeSegments_idem (absolute : Bool) (xs : List Segment) :
    normalizeSegments absolute (normalizeSegments absolute xs) =
      normalizeSegments absolute xs := by
  simpa using (normalizeSegments_append absolute xs []).symm

/-- A plain segment at the end is the last step down. -/
theorem normalizeSegments_concat (absolute : Bool) (xs : List Segment) {s : Segment}
    (h : Plain s) :
    normalizeSegments absolute (xs ++ [s]) = normalizeSegments absolute xs ++ [s] := by
  unfold normalizeSegments
  simp [pushSegment, h.1, h.2.1, h.2.2]

/-- Segments none of which is `..` only lead down. -/
theorem foldl_pushSegment_down (absolute : Bool) {segments : List Segment}
    (down : ∀ s ∈ segments, s ≠ ['.', '.']) (stack : List Segment) :
    segments.foldl (pushSegment absolute) stack =
      (segments.filter fun s => Plain s).reverse ++ stack := by
  induction segments generalizing stack with
  | nil => rfl
  | cons s rest ih =>
      have later := ih fun t ht => down t (List.mem_cons_of_mem s ht)
      have notUp := down s List.mem_cons_self
      rw [List.foldl_cons, later]
      unfold pushSegment
      by_cases skip : s = [] ∨ s = ['.']
      · have silent : ¬Plain s := fun plain => skip.elim plain.1 plain.2.1
        rw [if_pos skip, List.filter_cons_of_neg (by simpa using silent)]
      · have plain : Plain s := ⟨fun e => skip (Or.inl e), fun e => skip (Or.inr e), notUp⟩
        rw [if_neg skip, if_neg notUp, List.filter_cons_of_pos (by simpa using plain),
          List.reverse_cons, List.append_assoc, List.singleton_append]

theorem normalizeSegments_down (absolute : Bool) (xs : List Segment) {ys : List Segment}
    (down : ∀ s ∈ ys, s ≠ ['.', '.']) :
    normalizeSegments absolute (xs ++ ys) =
      normalizeSegments absolute xs ++ ys.filter fun s => Plain s := by
  rw [normalizeSegments, List.foldl_append, foldl_pushSegment_down absolute down,
    List.reverse_append, List.reverse_reverse]
  rfl

theorem mem_normalizeSegments {absolute : Bool} {xs : List Segment} {s : Segment}
    (h : s ∈ normalizeSegments absolute xs) : s ∈ xs ∧ s ≠ [] := by
  have grows : ∀ (ys stack : List Segment), s ∈ ys.foldl (pushSegment absolute) stack →
      (s ∈ ys ∧ s ≠ []) ∨ s ∈ stack := by
    intro ys
    induction ys with
    | nil => exact fun stack hs => Or.inr hs
    | cons y ys ih =>
        intro stack hs
        cases ih _ hs with
        | inl found => exact Or.inl ⟨List.mem_cons_of_mem _ found.1, found.2⟩
        | inr onStack =>
            unfold pushSegment at onStack
            split at onStack
            · exact Or.inr onStack
            · rename_i skip
              rw [not_or] at skip
              have pushed : s = y → (s ∈ y :: ys ∧ s ≠ []) ∨ s ∈ stack := by
                rintro rfl
                exact Or.inl ⟨List.mem_cons_self, skip.1⟩
              split at onStack
              · cases stack with
                | nil =>
                    cases absolute with
                    | true => cases onStack
                    | false => exact pushed (List.mem_singleton.mp onStack)
                | cons top rest =>
                    simp only at onStack
                    split at onStack
                    · exact (List.mem_cons.mp onStack).elim pushed Or.inr
                    · exact Or.inr (List.mem_cons_of_mem _ onStack)
              · exact (List.mem_cons.mp onStack).elim pushed Or.inr
  simpa using grows xs [] (List.mem_reverse.mp h)

theorem not_mem_of_mem_splitOn {path s : List Char} (h : s ∈ path.splitOn '/') : '/' ∉ s := by
  induction path generalizing s with
  | nil =>
      rw [List.splitOn_nil, List.mem_singleton] at h
      simp [h]
  | cons c cs ih =>
      rw [List.splitOn_cons_eq_if_modifyHead] at h
      split at h
      · cases List.mem_cons.mp h with
        | inl e => simp [e]
        | inr e => exact ih e
      · rename_i hc
        obtain ⟨first, rest, hs⟩ := List.exists_cons_of_ne_nil (List.splitOn_ne_nil '/' cs)
        rw [hs, List.modifyHead_cons] at h
        rw [hs] at ih
        cases List.mem_cons.mp h with
        | inl e =>
            rw [e, List.mem_cons, not_or]
            exact ⟨fun eq => hc (by simp [← eq]), ih List.mem_cons_self⟩
        | inr e => exact ih (List.mem_cons_of_mem _ e)

/-- A segment is a part of its path. -/
theorem infix_of_mem_splitOn {path s : List Char} (h : s ∈ path.splitOn '/') : s <:+: path := by
  have parts : ∀ (ls : List Segment), s ∈ ls → s <:+: ['/'].intercalate ls := by
    intro ls
    induction ls with
    | nil => exact fun h => absurd h List.not_mem_nil
    | cons l rest ih =>
        intro h
        cases rest with
        | nil =>
            simp only [List.mem_singleton.mp h, List.intercalate_singleton, List.infix_rfl]
        | cons l' rest =>
            rw [List.intercalate_cons_cons]
            cases List.mem_cons.mp h with
            | inl e =>
                rw [e, List.append_assoc]
                exact (List.prefix_append l _).isInfix
            | inr e => exact (ih e).trans (List.suffix_append (l ++ ['/']) _).isInfix
  have whole := parts _ h
  rwa [List.intercalate_splitOn] at whole

/-- Splitting a rendered list of normalised segments gives them back. -/
theorem splitOn_intercalate_normalized {absolute : Bool} {path : List Char}
    (h : normalizeSegments absolute (path.splitOn '/') ≠ []) :
    (['/'].intercalate (normalizeSegments absolute (path.splitOn '/'))).splitOn '/' =
      normalizeSegments absolute (path.splitOn '/') :=
  List.splitOn_intercalate '/' (fun _ hs => not_mem_of_mem_splitOn (mem_normalizeSegments hs).1) h

theorem intercalate_eq_nil {ls : List Segment} (h : ∀ s ∈ ls, s ≠ []) :
    ['/'].intercalate ls = [] ↔ ls = [] := by
  cases ls with
  | nil => simp
  | cons s rest =>
      cases rest with
      | nil => simp [h s]
      | cons t rest => simp [List.intercalate_cons_of_ne_nil, h s]

theorem head?_intercalate {ls : List Segment} (h : ∀ s ∈ ls, s ≠ [] ∧ '/' ∉ s) :
    isAbsolute (['/'].intercalate ls) = false := by
  cases ls with
  | nil => rfl
  | cons s rest =>
      obtain ⟨c, cs, rfl⟩ := List.exists_cons_of_ne_nil (h s List.mem_cons_self).1
      have hc : c ≠ '/' := by
        rintro rfl
        exact (h _ List.mem_cons_self).2 List.mem_cons_self
      cases rest <;> simp [isAbsolute, List.intercalate_cons_of_ne_nil, hc]

theorem pushSegment_nil (absolute : Bool) (stack : List Segment) :
    pushSegment absolute stack [] = stack := by simp [pushSegment]

theorem normalizeSegments_nil_cons (absolute : Bool) (xs : List Segment) :
    normalizeSegments absolute ([] :: xs) = normalizeSegments absolute xs := by
  simp [normalizeSegments, pushSegment_nil]

theorem normalizeSegments_concat_nil (absolute : Bool) (xs : List Segment) :
    normalizeSegments absolute (xs ++ [[]]) = normalizeSegments absolute xs := by
  simp [normalizeSegments, pushSegment_nil]

/-- A slash at the end of a path adds no segment. -/
theorem normalizeSegments_trailing (absolute slash : Bool) (path : List Char) :
    normalizeSegments absolute ((path ++ if slash then ['/'] else []).splitOn '/') =
      normalizeSegments absolute (path.splitOn '/') := by
  cases slash with
  | false => simp
  | true =>
      rw [if_pos rfl, List.splitOn_append_cons_self, List.splitOn_nil,
        normalizeSegments_concat_nil]

/-- Normalising a path does not change the place it names. -/
theorem locate_normalize {path : List Char} (h : path ≠ []) :
    locate (normalize path) = locate path := by
  have pieces : ∀ s ∈ normalizeSegments (isAbsolute path) (path.splitOn '/'),
      s ≠ [] ∧ '/' ∉ s := fun s hs =>
    ⟨(mem_normalizeSegments hs).2, not_mem_of_mem_splitOn (mem_normalizeSegments hs).1⟩
  unfold normalize
  rw [if_neg h]
  simp only [intercalate_eq_nil fun s hs => (pieces s hs).1]
  split
  · rename_i empty
    rw [locate, locate, empty]
    cases isAbsolute path with
    | true => rfl
    | false => cases path.getLast? == some '/' <;> rfl
  · rename_i nonempty
    have relative := head?_intercalate pieces
    have split := splitOn_intercalate_normalized nonempty
    have again := normalizeSegments_idem (isAbsolute path) (path.splitOn '/')
    generalize hbody : ['/'].intercalate
      (normalizeSegments (isAbsolute path) (path.splitOn '/')) = body at relative split
    have bodyNonempty : body ≠ [] := by
      rw [← hbody, ne_eq, intercalate_eq_nil fun s hs => (pieces s hs).1]
      exact nonempty
    obtain ⟨c, cs, rfl⟩ := List.exists_cons_of_ne_nil bodyNonempty
    unfold locate
    cases habs : isAbsolute path with
    | true =>
        rw [habs] at split again
        have root : isAbsolute ((if true = true then ['/'] else []) ++ (c :: cs) ++
            if path.getLast? == some '/' then ['/'] else []) = true := rfl
        rw [root, normalizeSegments_trailing]
        simp only [if_true, List.cons_append, List.nil_append]
        rw [List.splitOn_cons_eq_if_modifyHead, if_pos (by rfl), normalizeSegments_nil_cons,
          split, again]
    | false =>
        rw [habs] at split again
        have root : isAbsolute ((if false = true then ['/'] else []) ++ (c :: cs) ++
            if path.getLast? == some '/' then ['/'] else []) = false := relative
        rw [root, normalizeSegments_trailing]
        simp only [Bool.false_eq_true, if_false, List.nil_append]
        rw [split, again]

/-- Joining two non-empty parts names the place reached by walking both. -/
theorem locate_join {a b : List Char} (ha : a ≠ []) (hb : b ≠ []) :
    locate (join [a, b]) =
      ⟨isAbsolute a, normalizeSegments (isAbsolute a) (a.splitOn '/' ++ b.splitOn '/')⟩ := by
  have parts : [a, b].filter (fun p => decide (p ≠ [])) = [a, b] := by simp [ha, hb]
  have glued : ['/'].intercalate [a, b] = a ++ '/' :: b := by
    simp [List.intercalate_cons_of_ne_nil]
  obtain ⟨c, cs, rfl⟩ := List.exists_cons_of_ne_nil ha
  unfold join
  rw [parts]
  simp only [glued]
  rw [locate_normalize (by simp)]
  unfold locate
  rw [List.splitOn_append_cons_self]
  rfl

theorem join_ne_nil {a b : List Char} (ha : a ≠ []) (hb : b ≠ []) : join [a, b] ≠ [] := by
  have parts : [a, b].filter (fun p => decide (p ≠ [])) = [a, b] := by simp [ha, hb]
  unfold join normalize
  rw [parts]
  simp only
  split
  · simp
  · split
    · split
      · simp
      · split <;> simp
    · rename_i body
      intro h
      rw [List.append_eq_nil_iff, List.append_eq_nil_iff] at h
      exact body h.1.2

/-- Joining with nothing normalises the path. -/
theorem locate_join_nil (a : List Char) : locate (join [a, []]) = locate a := by
  by_cases ha : a = []
  · rw [ha]
    rfl
  · have parts : [a, []].filter (fun p => decide (p ≠ [])) = [a] := by simp [ha]
    unfold join
    rw [parts]
    simp only [List.intercalate_singleton]
    exact locate_normalize ha

theorem locate_nil_join {b : List Char} (hb : b ≠ []) : locate (join [[], b]) = locate b := by
  have parts : [[], b].filter (fun p => decide (p ≠ [])) = [b] := by simp [hb]
  unfold join
  rw [parts]
  simp only [List.intercalate_singleton]
  exact locate_normalize hb

/-- A relative path without `..` stays within the directory it is joined to. -/
theorem locate_join_within (base : List Char) {path : List Char} (up : ¬['.', '.'] <:+: path)
    (relative : isAbsolute path = false) : (locate (join [base, path])).Within (locate base) := by
  have down : ∀ s ∈ path.splitOn '/', s ≠ ['.', '.'] := by
    rintro s hs rfl
    exact up (infix_of_mem_splitOn hs)
  have plain : ∀ s ∈ (path.splitOn '/').filter fun s => Plain s, Plain s :=
    fun s hs => of_decide_eq_true (List.mem_filter.mp hs).2
  by_cases hp : path = []
  · rw [hp, locate_join_nil]
    exact Or.inl rfl
  · by_cases hb : base = []
    · rw [hb, locate_nil_join hp]
      refine Place.within_of_segments relative plain ?_
      rw [locate, relative]
      exact normalizeSegments_down false [] down
    · rw [locate_join hb hp]
      exact Place.within_of_segments rfl plain (normalizeSegments_down _ _ down)

theorem join_two {a b : List Char} (ha : a ≠ []) (hb : b ≠ []) :
    join [a, b] = normalize (a ++ '/' :: b) := by
  have parts : [a, b].filter (fun p => decide (p ≠ [])) = [a, b] := by simp [ha, hb]
  have glued : ['/'].intercalate [a, b] = a ++ '/' :: b := by
    simp [List.intercalate_cons_of_ne_nil]
  unfold join
  rw [parts]
  exact congrArg normalize glued

/-- Normalising decides on the place a path names and on whether it ends in a slash. -/
theorem normalize_congr {a b : List Char} (ha : a ≠ []) (hb : b ≠ [])
    (place : locate a = locate b) (slash : a.getLast? = b.getLast?) :
    normalize a = normalize b := by
  obtain ⟨absolute, segments⟩ := Place.mk.injEq .. ▸ place
  rw [← absolute] at segments
  unfold normalize
  rw [if_neg ha, if_neg hb, ← absolute, segments, slash]

/-- Joining a plain name to a path names that entry of its directory. -/
theorem locate_join_plain {a s : List Char} (ha : a ≠ []) (hs : Plain s) (slash : '/' ∉ s) :
    locate (join [a, s]) = (locate a).child s := by
  rw [locate_join ha hs.1, List.splitOn_eq_singleton slash, normalizeSegments_concat _ _ hs]
  rfl

/-- Two plain names joined one by one or spelled as one relative path name one place. -/
theorem locate_join_two {a s t : List Char} (ha : a ≠ []) (hs : Plain s) (ht : Plain t)
    (slashS : '/' ∉ s) (slashT : '/' ∉ t) :
    locate (join [a, s ++ '/' :: t]) = ((locate a).child s).child t := by
  rw [locate_join ha (by simp), List.splitOn_append_cons_self, List.splitOn_eq_singleton slashS,
    List.splitOn_eq_singleton slashT, ← List.append_assoc, normalizeSegments_concat _ _ ht,
    normalizeSegments_concat _ _ hs]
  rfl

end Posix
