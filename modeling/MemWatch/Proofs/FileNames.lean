/-
# File names

A path is made of pieces between separators.  The file name is its last component behind the volume:
empty pieces and steps to the same place are no components, and a step to the parent is no name.

Main statement: a file name is found exactly if the path ends in it behind its volume, up to
separators and steps to the same place.
-/
import Mathlib
import MemWatch.FilePath

namespace MemWatch.FilePath

variable {verbatim : Bool} {c : Char} {path front rest name piece : List Char}
  {parts : List (Char × List Char)}

/-! ## Pieces -/

/-- The text holds no separator. -/
def IsPlain (verbatim : Bool) (text : List Char) : Prop :=
  ∀ c ∈ text, separates verbatim c = false

/-- Pieces with the separator that is in front of each. -/
def separated (parts : List (Char × List Char)) : List Char :=
  parts.flatMap fun part => part.1 :: part.2

/-- Every piece is plain and has a separator in front. -/
def ArePieces (verbatim : Bool) (parts : List (Char × List Char)) : Prop :=
  ∀ part ∈ parts, separates verbatim part.1 = true ∧ IsPlain verbatim part.2

theorem isPlain_nil : IsPlain verbatim [] :=
  fun _ hmem => absurd hmem List.not_mem_nil

theorem isPlain_cons : IsPlain verbatim (c :: rest) ↔
    separates verbatim c = false ∧ IsPlain verbatim rest :=
  List.forall_mem_cons

theorem pieces_ne_nil (verbatim : Bool) (path : List Char) : pieces verbatim path ≠ [] := by
  cases path with
  | nil => exact List.cons_ne_nil _ _
  | cons c rest =>
    rw [pieces]
    split
    · exact List.cons_ne_nil _ _
    · split <;> exact List.cons_ne_nil _ _

/-- A path is cut at a separator. -/
theorem pieces_append (front rest : List Char) (hc : separates verbatim c = true) :
    pieces verbatim (front ++ c :: rest) = pieces verbatim front ++ pieces verbatim rest := by
  induction front with
  | nil =>
    show pieces verbatim (c :: rest) = [] :: pieces verbatim rest
    rw [pieces, if_pos hc]
  | cons d front ih =>
    obtain ⟨piece, more, hfront⟩ := List.exists_cons_of_ne_nil (pieces_ne_nil verbatim front)
    rw [List.cons_append, pieces, pieces, ih, hfront]
    by_cases hd : separates verbatim d = true
    · rw [if_pos hd, if_pos hd]
      rfl
    · rw [if_neg hd, if_neg hd]
      rfl

/-- Without a separator a path is one piece. -/
theorem pieces_of_isPlain (h : IsPlain verbatim piece) : pieces verbatim piece = [piece] := by
  induction piece with
  | nil => rfl
  | cons c rest ih =>
    obtain ⟨hc, hrest⟩ := isPlain_cons.mp h
    rw [pieces, if_neg (by simp [hc]), ih hrest]

/-- Pieces are those of the path that is made of them. -/
theorem pieces_separated (hpiece : IsPlain verbatim piece) (hparts : ArePieces verbatim parts) :
    pieces verbatim (piece ++ separated parts) = piece :: parts.map Prod.snd := by
  induction parts generalizing piece with
  | nil =>
    show pieces verbatim (piece ++ []) = [piece]
    rw [List.append_nil, pieces_of_isPlain hpiece]
  | cons part parts ih =>
    obtain ⟨⟨hseparator, hpart⟩, hparts⟩ := List.forall_mem_cons.mp hparts
    calc pieces verbatim (piece ++ separated (part :: parts))
        = pieces verbatim (piece ++ part.1 :: (part.2 ++ separated parts)) := rfl
      _ = pieces verbatim piece ++ pieces verbatim (part.2 ++ separated parts) :=
          pieces_append _ _ hseparator
      _ = piece :: (part :: parts).map Prod.snd := by
          rw [pieces_of_isPlain hpiece, ih hpart hparts]
          rfl

/-- A path is made of pieces. -/
theorem exists_parts (verbatim : Bool) (path : List Char) :
    ∃ piece parts, IsPlain verbatim piece ∧ ArePieces verbatim parts ∧
      path = piece ++ separated parts := by
  induction path with
  | nil => exact ⟨[], [], isPlain_nil, nofun, rfl⟩
  | cons c rest ih =>
    obtain ⟨piece, parts, hpiece, hparts, rfl⟩ := ih
    cases hc : separates verbatim c with
    | true => exact ⟨[], (c, piece) :: parts, isPlain_nil,
        List.forall_mem_cons.mpr ⟨⟨hc, hpiece⟩, hparts⟩, rfl⟩
    | false => exact ⟨c :: piece, parts, isPlain_cons.mpr ⟨hc, hpiece⟩, hparts, rfl⟩

/-- Nothing is in front of the first piece of a path, and a separator in front of any other one. -/
def IsFront (verbatim : Bool) (front : List Char) : Prop :=
  front = [] ∨ ∃ parents c, separates verbatim c = true ∧ front = parents ++ [c]

/-- The last pieces of a path are those of the text that it ends in. -/
theorem exists_pieces_eq_append_iff {last : List (List Char)} :
    (∃ parents, pieces verbatim path = parents ++ last ∧ last ≠ []) ↔
      ∃ front piece parts, IsFront verbatim front ∧ IsPlain verbatim piece ∧
        ArePieces verbatim parts ∧ path = front ++ (piece ++ separated parts) ∧
        last = piece :: parts.map Prod.snd := by
  constructor
  · rintro ⟨parents, hpieces, hlast⟩
    obtain ⟨first, parts, hfirst, hparts, rfl⟩ := exists_parts verbatim path
    rw [pieces_separated hfirst hparts] at hpieces
    cases parents with
    | nil => exact ⟨[], first, parts, .inl rfl, hfirst, hparts, rfl, hpieces.symm⟩
    | cons parent parents =>
      obtain ⟨-, hothers⟩ := List.cons.inj hpieces
      obtain ⟨before, behind, rfl, -, rfl⟩ := List.map_eq_append_iff.mp hothers
      obtain ⟨-, hbehind⟩ := List.forall_mem_append.mp hparts
      cases behind with
      | nil => exact absurd rfl hlast
      | cons part behind =>
        obtain ⟨⟨hc, hpart⟩, hbehind⟩ := List.forall_mem_cons.mp hbehind
        refine ⟨first ++ separated before ++ [part.1], part.2, behind, .inr ⟨_, _, hc, rfl⟩, hpart,
          hbehind, ?_, rfl⟩
        simp [separated]
  · rintro ⟨front, piece, parts, rfl | ⟨parents, c, hc, rfl⟩, hpiece, hparts, rfl, rfl⟩
    · exact ⟨[], pieces_separated hpiece hparts, List.cons_ne_nil _ _⟩
    · refine ⟨pieces verbatim parents, ?_, List.cons_ne_nil _ _⟩
      rw [List.append_assoc, List.singleton_append, pieces_append _ _ hc,
        pieces_separated hpiece hparts]

/-! ## The last component -/

/-- Empty pieces are no components, nor are steps to the same place unless the path is a verbatim
one. -/
def IsSkipped (verbatim : Bool) (piece : List Char) : Prop :=
  piece = [] ∨ verbatim = false ∧ piece = ['.']

/-- The path ends in a name: it follows a separator or starts the path, no component is behind it,
and it is no step to the same place or to the parent. -/
structure EndsInName (verbatim : Bool) (path name : List Char) : Prop where
  ends : ∃ front skipped, IsFront verbatim front ∧ path = front ++ (name ++ separated skipped) ∧
    ∀ part ∈ skipped, separates verbatim part.1 = true ∧ IsSkipped verbatim part.2
  whole : IsPlain verbatim name
  nonempty : name ≠ []
  no_step : name ≠ ['.'] ∧ name ≠ ['.', '.']

theorem isComponent_eq_false_iff : isComponent verbatim piece = false ↔ IsSkipped verbatim piece := by
  simp [isComponent, IsSkipped, or_iff_not_imp_left]

theorem IsSkipped.isPlain (h : IsSkipped verbatim piece) : IsPlain verbatim piece := by
  rcases h with rfl | ⟨-, rfl⟩
  · exact isPlain_nil
  · refine isPlain_cons.mpr ⟨?_, isPlain_nil⟩
    cases verbatim <;> rfl

/-- The last component is the name, if it is no step. -/
theorem lastName?_eq_some_iff_getLast? :
    lastName? verbatim path = some name ↔
      ((pieces verbatim path).filter (isComponent verbatim)).getLast? = some name ∧
        name ≠ ['.'] ∧ name ≠ ['.', '.'] := by
  unfold lastName?
  cases ((pieces verbatim path).filter (isComponent verbatim)).getLast? with
  | none => simp
  | some last =>
    show (if last = ['.'] ∨ last = ['.', '.'] then none else some last) = some name ↔ _
    by_cases hstep : last = ['.'] ∨ last = ['.', '.']
    · rw [if_pos hstep]
      refine ⟨nofun, fun h => ?_⟩
      obtain rfl := Option.some.inj h.1
      exact absurd hstep (not_or.mpr h.2)
    · rw [if_neg hstep]
      refine ⟨fun h => ⟨h, ?_⟩, And.left⟩
      exact Option.some.inj h ▸ not_or.mp hstep

/-- A name is the last component exactly if all pieces behind it are skipped. -/
theorem getLast?_components_iff :
    ((pieces verbatim path).filter (isComponent verbatim)).getLast? = some name ↔
      ¬ IsSkipped verbatim name ∧ ∃ skipped,
        (∃ parents, pieces verbatim path = parents ++ name :: skipped) ∧
        ∀ piece ∈ skipped, IsSkipped verbatim piece := by
  have hkept (piece : List Char) : isComponent verbatim piece = true ↔ ¬ IsSkipped verbatim piece := by
    rw [← isComponent_eq_false_iff, Bool.not_eq_false]
  simp only [List.getLast?_eq_some_iff, List.filter_eq_append_iff, List.filter_eq_cons_iff,
    List.filter_eq_nil_iff, hkept, Classical.not_not]
  constructor
  · rintro ⟨_, before, _, hpieces, -, between, skipped, rfl, -, hname, hskipped⟩
    exact ⟨hname, skipped, ⟨before ++ between, by rw [hpieces, List.append_assoc]⟩, hskipped⟩
  · rintro ⟨hname, skipped, ⟨parents, hpieces⟩, hskipped⟩
    exact ⟨_, parents, _, hpieces, rfl, [], skipped, rfl, nofun, hname, hskipped⟩

/-- **File names.**  The last name of a text is the name that it ends in. -/
theorem lastName?_eq_some_iff :
    lastName? verbatim path = some name ↔ EndsInName verbatim path name := by
  rw [lastName?_eq_some_iff_getLast?, getLast?_components_iff]
  constructor
  · rintro ⟨⟨hcomponent, skipped, ⟨parents, hpieces⟩, hskipped⟩, hsteps⟩
    obtain ⟨front, piece, parts, hfront, hpiece, hparts, hpath, hlast⟩ :=
      exists_pieces_eq_append_iff.mp ⟨parents, hpieces, List.cons_ne_nil _ _⟩
    obtain ⟨rfl, rfl⟩ := List.cons.inj hlast
    refine ⟨⟨front, parts, hfront, hpath, fun part hpart => ⟨(hparts part hpart).1, ?_⟩⟩, hpiece,
      fun hnil => hcomponent (.inl hnil), hsteps⟩
    exact hskipped _ (List.mem_map_of_mem hpart)
  · rintro ⟨⟨front, parts, hfront, hpath, hskipped⟩, hwhole, hnonempty, hsteps⟩
    have hparts : ArePieces verbatim parts := fun part hpart =>
      ⟨(hskipped part hpart).1, (hskipped part hpart).2.isPlain⟩
    obtain ⟨parents, hpieces, -⟩ := exists_pieces_eq_append_iff.mpr
      ⟨front, name, parts, hfront, hwhole, hparts, hpath, rfl⟩
    refine ⟨⟨not_or.mpr ⟨hnonempty, fun h => hsteps.1 h.2⟩, _, ⟨parents, hpieces⟩, ?_⟩, hsteps⟩
    rintro piece hmem
    obtain ⟨part, hpart, rfl⟩ := List.mem_map.mp hmem
    exact (hskipped part hpart).2

/-! ## Volumes -/

/-- Text of a volume ends before a separator or at the end of the path. -/
def IsAtEnd (rest : List Char) : Prop :=
  rest.head?.all (separates false) = true

theorem cut_append (hfront : IsPlain verbatim front) (hc : separates verbatim c = true) :
    cut verbatim (front ++ c :: rest) = (front, rest) := by
  have hkept : ∀ d ∈ front, (!separates verbatim d) = true := fun d hd => by simp [hfront d hd]
  have hstop : (!separates verbatim c) = false := by simp [hc]
  simp [cut, List.takeWhile_append_of_pos hkept, List.dropWhile_append_of_pos hkept, hstop]

theorem cut_of_isPlain (h : IsPlain verbatim front) : cut verbatim front = (front, []) := by
  have hkept : ∀ d ∈ front, (!separates verbatim d) = true := fun d hd => by simp [h d hd]
  simp [cut, List.takeWhile_eq_self_iff.mpr hkept, List.dropWhile_eq_nil_iff.mpr hkept]

/-- The name of a share ends where the rest of the path starts. -/
theorem cut_fst_of_isAtEnd (h : IsPlain false front) (hrest : IsAtEnd rest) :
    (cut false (front ++ rest)).1 = front := by
  cases rest with
  | nil => rw [List.append_nil, cut_of_isPlain h]
  | cons c rest => rw [cut_append h hrest]

/-- A letter and a colon are a drive. -/
theorem volume?_drive {letter : Char} (h : letter.isAlpha = true) (rest : List Char) :
    volume? (letter :: ':' :: rest) = some (.drive letter) := by
  have hcolon : separates false ':' = false := rfl
  simp [volume?, drive?, h, hcolon]

/-- Two separators, the name of a server, one more separator and another name are a share. -/
theorem volume?_share {a b : Char} {server : List Char} (ha : separates false a = true)
    (hb : separates false b = true) (hc : separates false c = true)
    (hserver : IsPlain false server ∧ server ≠ [] ∧ server ≠ ['.'] ∧ server ≠ ['?'])
    (hname : IsPlain false name ∧ name ≠ []) (hrest : IsAtEnd rest) :
    volume? (a :: b :: (server ++ c :: (name ++ rest))) = some (.share server name) := by
  obtain ⟨hplain, hnonempty, hdot, hmark⟩ := hserver
  have hshare : share? (server ++ c :: (name ++ rest)) = some (.share server name) := by
    unfold share? cutShare
    rw [cut_append hplain hc]
    simp [cut_fst_of_isAtEnd hname.1 hrest, hnonempty, hname.2]
  -- neither a dot nor a question mark is all of the name of the server
  have hlonely {d : Char} {tail : List Char} (hd : separates false d = true) (e : Char)
      (h : server ++ c :: (name ++ rest) = e :: d :: tail) : server = [e] := by
    obtain ⟨first, more, rfl⟩ := List.exists_cons_of_ne_nil hnonempty
    obtain ⟨rfl, htail⟩ := List.cons.inj h
    cases more with
    | nil => rfl
    | cons second more =>
      obtain ⟨rfl, -⟩ := List.cons.inj htail
      have hsecond := (isPlain_cons.mp (isPlain_cons.mp hplain).2).1
      rw [hd] at hsecond
      exact absurd hsecond nofun
  have hnetwork : networkVolume? (server ++ c :: (name ++ rest)) = some (.share server name) := by
    unfold networkVolume?
    split
    case h_1 d tail h =>
      split
      case isTrue hd => exact absurd (hlonely hd '.' h) hdot
      case isFalse => exact hshare
    case h_2 => exact hshare
  unfold volume?
  split
  case h_1 tail h =>
    obtain ⟨-, hrest⟩ := List.cons.inj h
    obtain ⟨-, hrest⟩ := List.cons.inj hrest
    exact absurd (hlonely rfl '?' hrest) hmark
  case h_2 a' b' tail _ h =>
    obtain ⟨rfl, hrest⟩ := List.cons.inj h
    obtain ⟨rfl, rfl⟩ := List.cons.inj hrest
    rw [ha, hb]
    exact hnetwork
  case h_3 h => exact absurd rfl (h a b _)

theorem isVerbatim_verbatimVolume (path : List Char) : (verbatimVolume path).isVerbatim = true := by
  unfold verbatimVolume
  split
  · split <;> rfl
  · split
    · split <;> rfl
    · rfl

/-- No volume behind two separators is a verbatim one. -/
theorem not_isVerbatim_networkVolume? (path : List Char) :
    (networkVolume? path).any Volume.isVerbatim = false := by
  have hshare : (share? path).any Volume.isVerbatim = false := by
    unfold share?
    dsimp only
    split <;> rfl
  unfold networkVolume?
  split
  · split
    · rfl
    · exact hshare
  · exact hshare

/-- Whether a path is a verbatim one is seen from its first four characters. -/
theorem isVerbatim_iff :
    isVerbatim path = true ↔ ∃ rest, path = '\\' :: '\\' :: '?' :: '\\' :: rest := by
  unfold isVerbatim volume?
  split
  case h_1 rest => exact iff_of_true (isVerbatim_verbatimVolume rest) ⟨rest, rfl⟩
  case h_2 a b rest hother =>
    refine iff_of_false (Bool.eq_false_iff.mp ?_) fun ⟨tail, h⟩ => ?_
    · split
      · exact not_isVerbatim_networkVolume? rest
      · cases drive? (a :: b :: rest) <;> rfl
    · injection h with ha h
      injection h with hb h
      exact hother tail ha hb h
  case h_3 hother =>
    refine iff_of_false nofun ?_
    rintro ⟨rest, rfl⟩
    exact hother _ _ _ rfl

/-- A separator in front of a path does not change its name. -/
theorem lastName?_unrooted (path : List Char) :
    lastName? false (unrooted path) = lastName? false path := by
  unfold unrooted
  cases path with
  | nil => rfl
  | cons c rest =>
    by_cases hc : separates false c = true
    · have hpieces : pieces false (c :: rest) = [] :: pieces false rest := by rw [pieces, if_pos hc]
      rw [if_pos (by simpa using hc)]
      unfold lastName?
      rw [hpieces, List.filter_cons_of_neg (by simp [isComponent])]
      rfl
    · rw [if_neg (by simpa using hc)]

/-- The name is looked for behind the volume, if that is not a verbatim one. -/
theorem fileName?_of_volume {size : Nat} (hsize : (volume? path).elim 0 Volume.size = size)
    (hplain : isVerbatim path = false) :
    fileName? path = some name ↔ EndsInName false (path.drop size) name := by
  rw [fileName?, hplain, body, hsize, lastName?_unrooted, lastName?_eq_some_iff]

/-- On a drive the name is the one that the path behind the drive ends in. -/
theorem fileName?_drive {letter : Char} (h : letter.isAlpha = true) :
    fileName? (letter :: ':' :: rest) = some name ↔ EndsInName false rest name := by
  have hvolume := volume?_drive h rest
  have hsize : (volume? (letter :: ':' :: rest)).elim 0 Volume.size = 2 := by
    rw [hvolume]
    rfl
  have hplain : isVerbatim (letter :: ':' :: rest) = false := by
    rw [isVerbatim, hvolume]
    rfl
  exact fileName?_of_volume hsize hplain

/-- On a share the name is the one that the path behind the share ends in. -/
theorem fileName?_share {a b : Char} {server share : List Char} (ha : separates false a = true)
    (hb : separates false b = true) (hc : separates false c = true)
    (hserver : IsPlain false server ∧ server ≠ [] ∧ server ≠ ['.'] ∧ server ≠ ['?'])
    (hshare : IsPlain false share ∧ share ≠ []) (hrest : IsAtEnd rest) :
    fileName? (a :: b :: (server ++ c :: (share ++ rest))) = some name ↔
      EndsInName false rest name := by
  have hvolume := volume?_share ha hb hc hserver hshare hrest
  have hsize : Volume.size (.share server share) = (a :: b :: (server ++ c :: share)).length := by
    simp [Volume.size, Volume.nameSize, hshare.2]
    omega
  have hpath : a :: b :: (server ++ c :: (share ++ rest)) =
      a :: b :: (server ++ c :: share) ++ rest := by simp
  have hplain : isVerbatim (a :: b :: (server ++ c :: (share ++ rest))) = false := by
    rw [isVerbatim, hvolume]
    rfl
  have hrest : (a :: b :: (server ++ c :: (share ++ rest))).drop
      (Volume.size (.share server share)) = rest := by rw [hsize, hpath, List.drop_left]
  refine (fileName?_of_volume ?_ hplain).trans (by rw [hrest])
  rw [hvolume]
  rfl

/-- A path that starts neither with a drive nor with two separators has no volume. -/
theorem volume?_eq_none (hdrive : drive? path = none)
    (hfirst : ∀ a b rest, path = a :: b :: rest →
      separates false a = false ∨ separates false b = false) : volume? path = none := by
  unfold volume?
  split
  case h_1 => exact absurd (hfirst _ _ _ rfl) (by decide)
  case h_2 a b rest _ =>
    rw [if_neg (by simpa [Decidable.imp_iff_not_or] using hfirst a b rest rfl), hdrive]
    rfl
  case h_3 => rfl

/-- Without a volume the name is the one that the path ends in. -/
theorem fileName?_of_volume?_eq_none (h : volume? path = none) :
    fileName? path = some name ↔ EndsInName false path name := by
  have hsize : (volume? path).elim 0 Volume.size = 0 := by
    rw [h]
    rfl
  have hplain : isVerbatim path = false := by
    rw [isVerbatim, h]
    rfl
  exact fileName?_of_volume hsize hplain

/-- On a drive of a verbatim path the name is the one that the path behind the drive ends in with
nothing but backslashes to separate it. -/
theorem fileName?_verbatimDrive {letter : Char} (h : letter.isAlpha = true) (hrest : IsAtEnd rest) :
    fileName? ('\\' :: '\\' :: '?' :: '\\' :: letter :: ':' :: rest) = some name ↔
      EndsInName true (unrooted rest) name := by
  have hvolume : volume? ('\\' :: '\\' :: '?' :: '\\' :: letter :: ':' :: rest) =
      some (.verbatimDrive letter) := by
    have hend : rest.head?.all (separates false) = true := hrest
    simp [volume?, verbatimVolume, drive?, h, hend]
  rw [fileName?, isVerbatim, body, hvolume]
  exact lastName?_eq_some_iff

example : fileName? "C:\\bin/a.exe\\.".toList = some "a.exe".toList ∧
    fileName? "\\\\?\\C:\\bin/a.exe".toList = some "bin/a.exe".toList ∧
    fileName? "//host/share".toList = none := by
  decide +kernel

/-! ## Sought names -/

/-- What a path is looked for by: the name that it ends in behind its volume, or all of it if there is
none. -/
inductive SoughtBy (path : List Char) : List Char → Prop where
  | name {name : List Char} (h : EndsInName (isVerbatim path) (body path) name) : SoughtBy path name
  | path (h : ∀ name, ¬ EndsInName (isVerbatim path) (body path) name) : SoughtBy path path

/-- A path is looked for by its file name, if it has one. -/
theorem soughtBy_iff {sought : List Char} :
    SoughtBy path sought ↔ (fileName? path).getD path = sought := by
  constructor
  · intro h
    cases h with
    | name h => rw [fileName?, lastName?_eq_some_iff.mpr h, Option.getD_some]
    | path h =>
      have hnone : fileName? path = none := Option.eq_none_iff_forall_ne_some.mpr fun name hname =>
        h name (lastName?_eq_some_iff.mp hname)
      rw [hnone, Option.getD_none]
  · rintro rfl
    cases hname : fileName? path with
    | some name => exact .name (lastName?_eq_some_iff.mp hname)
    | none =>
      refine .path fun name h => ?_
      rw [fileName?, lastName?_eq_some_iff.mpr h] at hname
      exact absurd hname nofun

end MemWatch.FilePath
