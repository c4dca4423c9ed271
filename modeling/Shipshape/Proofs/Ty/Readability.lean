import Shipshape.Proofs.Identity.Mention
import Shipshape.Proofs.Induction
import Shipshape.Proofs.Respelling.Tree
import Shipshape.Proofs.Tree.Names

/-!
# Unique readability of types

The text of a type can be read in one way only, as long as the names in it are words.

* `Shipshape.IsWord` – a name without any of the characters that structure a type;
* `Shipshape.TypeExpr.chars` – the written form of a type expression, with a given separator
  between the keys and the values of a map;
* `Shipshape.TypeExpr.readable` – **unique readability**: where two written forms are followed
  by something that cannot continue them, the forms are the same and so is what follows;
* `Shipshape.TypeExpr.text_eq_iff` – type expressions with the same text are the same up to
  their spans;
* `Shipshape.Ty.written`, `Shipshape.Ty.nominal` – the type expression that reads like a type,
  and the type in which classes are known by their names only;
* `Shipshape.Ty.text_eq_iff` – types with the same text are the same up to the identity of
  their classes.

Types and type expressions are written in the same way, except for the separator in maps. So
both are read by one induction, over type expressions, with any separator that begins with
punctuation.
-/

namespace Shipshape

/-! ### Words -/

/-- The characters that structure the text of a type. -/
def punctuation : List Char := ['[', ']', '\x7b', '\x7d', '(', ')', ',', ':', '-', '>', ' ']

/-- **A word**: it is not empty, and there is no punctuation in it. -/
def IsWord (name : String) : Prop := name ≠ "" ∧ ∀ c ∈ name.toList, c ∉ punctuation

-- The test runs over the characters of the name, and not over all characters there are.
instance (name : String) : Decidable (IsWord name) :=
  @instDecidableAnd _ _ inferInstance (List.decidableBAll _ _)

/-- **What ends a word**: nothing, or something that begins with punctuation. -/
def Stops (rest : List Char) : Prop := ∀ c ∈ rest.head?, c ∈ punctuation

theorem stops_nil : Stops [] := fun _ h => nomatch h

theorem stops_cons {c : Char} (h : c ∈ punctuation) (rest : List Char) : Stops (c :: rest) := by
  rintro _ ⟨⟩
  exact h

/-- Where a word ends is seen from what follows. -/
theorem append_inj_of_stops {m n rest rest' : List Char} (hm : ∀ c ∈ m, c ∉ punctuation)
    (hn : ∀ c ∈ n, c ∉ punctuation) (hrest : Stops rest) (hrest' : Stops rest')
    (h : m ++ rest = n ++ rest') : m = n ∧ rest = rest' := by
  induction m generalizing n with
  | nil =>
    cases n with
    | nil => exact ⟨rfl, h⟩
    | cons c n =>
      rw [List.nil_append, List.cons_append] at h
      exact absurd (hrest c (by rw [h]; rfl)) (hn c List.mem_cons_self)
  | cons c m ih =>
    cases n with
    | nil =>
      rw [List.nil_append, List.cons_append] at h
      exact absurd (hrest' c (by rw [← h]; rfl)) (hm c List.mem_cons_self)
    | cons d n =>
      rw [List.cons_append, List.cons_append] at h
      obtain ⟨rfl, htail⟩ := List.cons.inj h
      obtain ⟨rfl, hrests⟩ :=
        ih (List.forall_mem_cons.mp hm).2 (List.forall_mem_cons.mp hn).2 htail
      exact ⟨rfl, hrests⟩

/-- A word does not begin with punctuation. -/
theorem IsWord.append_ne {name : String} (h : IsWord name) {c : Char} (hc : c ∈ punctuation)
    (rest cs : List Char) : name.toList ++ rest ≠ c :: cs := by
  intro heq
  cases hname : name.toList with
  | nil => exact h.1 (String.toList_eq_nil_iff.mp hname)
  | cons d ds =>
    rw [hname, List.cons_append] at heq
    obtain ⟨rfl, -⟩ := List.cons.inj heq
    exact h.2 d (hname ▸ List.mem_cons_self) hc

theorem isWord_scalar (kind : Scalar) : IsWord kind.name := by cases kind <;> decide

/-- Scalars have different names. -/
theorem Scalar.eq_of_name_eq {kind other : Scalar} (h : kind.name = other.name) :
    kind = other := by
  revert h
  cases kind <;> cases other <;> decide

/-! ### Type expressions -/

namespace TypeExpr

mutual

/-- **The characters of a type expression**, with `sep` between the key and the value of a
map. -/
def chars (sep : List Char) : TypeExpr → List Char
  | .name n _ => n.toList
  | .array element => '[' :: (element.chars sep ++ [']'])
  | .map key value => '\x7b' :: (key.chars sep ++ (sep ++ (value.chars sep ++ ['\x7d'])))
  | .function params result =>
    '(' :: (charsList sep params ++ ')' :: '-' :: '>' :: result.chars sep)

/-- The characters of the parameters of a function. -/
def charsList (sep : List Char) : List TypeExpr → List Char
  | [] => []
  | a :: as => a.chars sep ++ charsTail sep as

/-- The characters of the parameters that follow a parameter. -/
def charsTail (sep : List Char) : List TypeExpr → List Char
  | [] => []
  | a :: as => ',' :: (a.chars sep ++ charsTail sep as)

end

/-- The names in the type expression are words. -/
def Words (a : TypeExpr) : Prop := ∀ name ∈ a.names, IsWord name

instance (a : TypeExpr) : Decidable a.Words := inferInstanceAs (Decidable (∀ name ∈ a.names, _))

theorem mem_typeExprsNames {as : List TypeExpr} {name : String} :
    name ∈ typeExprsNames as ↔ ∃ a ∈ as, name ∈ a.names := by
  induction as with
  | nil => simp [typeExprsNames]
  | cons a as ih => simp [typeExprsNames, ih]

theorem words_name {name : String} {span : Span} : (TypeExpr.name name span).Words ↔ IsWord name :=
  List.forall_mem_singleton

theorem words_array {element : TypeExpr} : (array element).Words ↔ element.Words := Iff.rfl

theorem words_map {key value : TypeExpr} : (map key value).Words ↔ key.Words ∧ value.Words :=
  List.forall_mem_append

theorem words_function {params : List TypeExpr} {result : TypeExpr} :
    (function params result).Words ↔ (∀ p ∈ params, p.Words) ∧ result.Words := by
  rw [Words, names, List.forall_mem_append]
  refine and_congr_left fun _ => ⟨fun h p hp name hname => ?_, fun h name hname => ?_⟩
  · exact h name (mem_typeExprsNames.mpr ⟨p, hp, hname⟩)
  · obtain ⟨p, hp, hname⟩ := mem_typeExprsNames.mp hname
    exact h p hp name hname

theorem respellTypeExprs_eq_map (f : Respelling) (as : List TypeExpr) :
    respellTypeExprs f as = as.map (respell f) := by
  induction as with
  | nil => rw [respellTypeExprs, List.map_nil]
  | cons a as ih => rw [respellTypeExprs, ih, List.map_cons]

/-! ### Reading -/

variable {sep : List Char}

/-- **A type expression that can be read in one way only**: its characters are followed by
those of no other, if what comes next ends a word in both. -/
def Readable (sep : List Char) (a : TypeExpr) : Prop :=
  ∀ {b : TypeExpr} {rest rest' : List Char}, b.Words → Stops rest → Stops rest' →
    a.chars sep ++ rest = b.chars sep ++ rest' → a.respell .blank = b.respell .blank ∧ rest = rest'


/-- What may stand between a key and a value: it begins with punctuation. -/
def Separates (sep : List Char) : Prop := ∃ c ∈ punctuation, ∃ cs, sep = c :: cs

theorem Separates.stops (h : Separates sep) (rest : List Char) : Stops (sep ++ rest) := by
  obtain ⟨c, hc, cs, rfl⟩ := h
  exact stops_cons hc _

/-- The closing bracket of a parameter list does not begin a type. -/
theorem Words.chars_append_ne {a : TypeExpr} (h : a.Words) (rest cs : List Char) :
    a.chars sep ++ rest ≠ ')' :: cs := by
  cases a with
  | name n span =>
    rw [chars]
    exact (words_name.mp h).append_ne (by decide) rest cs
  | array | map | function => simp [chars]

theorem stops_charsTail (as : List TypeExpr) (rest : List Char) :
    Stops (charsTail sep as ++ ')' :: rest) := by
  cases as with
  | nil => exact stops_cons (by decide) _
  | cons => exact stops_cons (by decide) _

theorem charsTail_readable {as bs : List TypeExpr} {rest rest' : List Char}
    (has : ∀ a ∈ as, a.Readable sep) (hbs : ∀ b ∈ bs, b.Words)
    (h : charsTail sep as ++ ')' :: rest = charsTail sep bs ++ ')' :: rest') :
    as.map (respell .blank) = bs.map (respell .blank) ∧ rest = rest' := by
  induction as generalizing bs with
  | nil =>
    cases bs with
    | nil => exact ⟨rfl, (List.cons.inj h).2⟩
    | cons b bs => simp [charsTail] at h
  | cons a as ih =>
    cases bs with
    | nil => simp [charsTail] at h
    | cons b bs =>
      obtain ⟨ha, has⟩ := List.forall_mem_cons.mp has
      obtain ⟨hb, hbs⟩ := List.forall_mem_cons.mp hbs
      rw [charsTail, charsTail, List.cons_append, List.cons_append, List.append_assoc,
        List.append_assoc] at h
      obtain ⟨hab, htails⟩ :=
        ha hb (stops_charsTail _ _) (stops_charsTail _ _) (List.cons.inj h).2
      obtain ⟨habs, hrests⟩ := ih has hbs htails
      exact ⟨by rw [List.map_cons, List.map_cons, hab, habs], hrests⟩

/-- **A parameter list can be read in one way only**, up to its closing bracket. -/
theorem charsList_readable {as bs : List TypeExpr} {rest rest' : List Char}
    (haWords : ∀ a ∈ as, a.Words) (has : ∀ a ∈ as, a.Readable sep) (hbs : ∀ b ∈ bs, b.Words)
    (h : charsList sep as ++ ')' :: rest = charsList sep bs ++ ')' :: rest') :
    as.map (respell .blank) = bs.map (respell .blank) ∧ rest = rest' := by
  cases as with
  | nil =>
    cases bs with
    | nil => exact ⟨rfl, (List.cons.inj h).2⟩
    | cons b bs =>
      rw [charsList, charsList, List.append_assoc] at h
      exact absurd h.symm ((List.forall_mem_cons.mp hbs).1.chars_append_ne _ _)
  | cons a as =>
    cases bs with
    | nil =>
      rw [charsList, charsList, List.append_assoc] at h
      exact absurd h ((List.forall_mem_cons.mp haWords).1.chars_append_ne _ _)
    | cons b bs =>
      -- With a comma before them, the lists are tails.
      refine charsTail_readable has hbs ?_
      rw [charsTail, charsTail, List.cons_append, List.cons_append]
      exact congrArg (',' :: ·) h

/-- **Unique readability.** What follows tells where a type ends only if it cannot continue the
type, as a function type goes on for as long as its result does. -/
theorem readable (hsep : Separates sep) (a : TypeExpr) (ha : a.Words) : a.Readable sep := by
  induction a with
  | name n span =>
    intro b rest rest' hb hrest hrest' h
    have hn := words_name.mp ha
    rw [chars] at h
    cases b with
    | name m span' =>
      rw [chars] at h
      obtain ⟨hnm, hrests⟩ := append_inj_of_stops hn.2 (words_name.mp hb).2 hrest hrest' h
      obtain rfl := String.toList_inj.mp hnm
      exact ⟨by rw [respell, respell]; rfl, hrests⟩
    | array | map | function =>
      rw [chars] at h
      exact absurd h (hn.append_ne (by decide) _ _)
  | array element ih =>
    intro b rest rest' hb hrest hrest' h
    cases b with
    | name m span' =>
      rw [chars, chars] at h
      exact absurd h.symm ((words_name.mp hb).append_ne (by decide) _ _)
    | array element' =>
      simp only [chars, List.cons_append, List.append_assoc, List.nil_append] at h
      obtain ⟨hel, htails⟩ := ih (words_array.mp ha) (words_array.mp hb)
        (stops_cons (by decide) _) (stops_cons (by decide) _) (List.cons.inj h).2
      exact ⟨by rw [respell, respell, hel], (List.cons.inj htails).2⟩
    | map | function => simp [chars] at h
  | map key value ihkey ihvalue =>
    intro b rest rest' hb hrest hrest' h
    cases b with
    | name m span' =>
      rw [chars, chars] at h
      exact absurd h.symm ((words_name.mp hb).append_ne (by decide) _ _)
    | map key' value' =>
      obtain ⟨hkey, hvalue⟩ := words_map.mp ha
      obtain ⟨hkey', hvalue'⟩ := words_map.mp hb
      simp only [chars, List.cons_append, List.append_assoc, List.nil_append] at h
      obtain ⟨hkeys, htails⟩ :=
        ihkey hkey hkey' (hsep.stops _) (hsep.stops _) (List.cons.inj h).2
      obtain ⟨hvalues, htails⟩ := ihvalue hvalue hvalue' (stops_cons (by decide) _)
        (stops_cons (by decide) _) (List.append_cancel_left htails)
      exact ⟨by rw [respell, respell, hkeys, hvalues], (List.cons.inj htails).2⟩
    | array | function => simp [chars] at h
  | function params result ihparams ihresult =>
    intro b rest rest' hb hrest hrest' h
    cases b with
    | name m span' =>
      rw [chars, chars] at h
      exact absurd h.symm ((words_name.mp hb).append_ne (by decide) _ _)
    | function params' result' =>
      obtain ⟨hparams, hresult⟩ := words_function.mp ha
      obtain ⟨hparams', hresult'⟩ := words_function.mp hb
      simp only [chars, List.cons_append, List.append_assoc] at h
      obtain ⟨hlists, htails⟩ := charsList_readable hparams
        (fun p hp => ihparams p hp (hparams p hp)) hparams' (List.cons.inj h).2
      -- The arrow is the same on both sides.
      obtain ⟨hresults, hrests⟩ := ihresult hresult hresult' hrest hrest'
        (List.cons.inj (List.cons.inj htails).2).2
      refine ⟨?_, hrests⟩
      rw [respell, respell, respellTypeExprs_eq_map, respellTypeExprs_eq_map, hlists, hresults]
    | array | map => simp [chars] at h

/-! ### The text of a type expression -/

theorem toList_textList {as : List TypeExpr}
    (h : ∀ a ∈ as, a.text.toList = a.chars [',', ' ']) :
    (textList as).toList = charsList [',', ' '] as := by
  induction as with
  | nil => rfl
  | cons a as ih =>
    obtain ⟨ha, has⟩ := List.forall_mem_cons.mp h
    specialize ih has
    cases as with
    | nil => simp [textList, charsList, charsTail, ha]
    | cons b bs => simpa [textList, charsList, charsTail, ha] using ih

theorem toList_text (a : TypeExpr) : a.text.toList = a.chars [',', ' '] := by
  induction a with
  | name n span => simp [text, chars]
  | array element ih => simp [text, chars, ih]
  | map key value ihkey ihvalue => simp [text, chars, ihkey, ihvalue]
  | function params result ihparams ihresult =>
    simp [text, chars, toList_textList ihparams, ihresult]

mutual

/-- A type expression of the same names is written in the same way. -/
theorem chars_respell (sep : List Char) : ∀ a : TypeExpr, (a.respell .blank).chars sep = a.chars sep
  | .name n span => rfl
  | .array element => by rw [respell, chars, chars, chars_respell sep element]
  | .map key value => by
    rw [respell, chars, chars, chars_respell sep key, chars_respell sep value]
  | .function params result => by
    rw [respell, chars, chars, charsList_respell sep params, chars_respell sep result]

theorem charsList_respell (sep : List Char) :
    ∀ as : List TypeExpr, charsList sep (respellTypeExprs .blank as) = charsList sep as
  | [] => rfl
  | a :: as => by
    rw [respellTypeExprs, charsList, charsList, chars_respell sep a, charsTail_respell sep as]

theorem charsTail_respell (sep : List Char) :
    ∀ as : List TypeExpr, charsTail sep (respellTypeExprs .blank as) = charsTail sep as
  | [] => rfl
  | a :: as => by
    rw [respellTypeExprs, charsTail, charsTail, chars_respell sep a, charsTail_respell sep as]

end

theorem chars_eq_iff (hsep : Separates sep) {a b : TypeExpr} (ha : a.Words) (hb : b.Words) :
    a.chars sep = b.chars sep ↔ a.respell .blank = b.respell .blank := by
  refine ⟨fun h => (readable hsep a ha hb stops_nil stops_nil (by rw [h])).1, fun h => ?_⟩
  rw [← chars_respell sep a, h, chars_respell]

/-- **Type expressions with the same text are the same up to their spans**, if the names in
them are words. -/
theorem text_eq_iff {a b : TypeExpr} (ha : a.Words) (hb : b.Words) :
    a.text = b.text ↔ a.respell .blank = b.respell .blank := by
  have hsep : Separates [',', ' '] := ⟨',', by decide, [' '], rfl⟩
  rw [← String.toList_inj, toList_text, toList_text, chars_eq_iff hsep ha hb]

end TypeExpr

/-! ### The text of a type -/

namespace Ty

mutual

/-- **The type expression that reads like a type**: scalars and classes are known by their
names. -/
def written : Ty → TypeExpr
  | .scalar kind => .named kind.name
  | .array element => .array element.written
  | .map key value => .map key.written value.written
  | .function params result => .function (writtenList params) result.written
  | .object cls => .named cls.name

/-- The type expressions that read like some types. -/
def writtenList : List Ty → List TypeExpr
  | [] => []
  | t :: ts => t.written :: writtenList ts

end

mutual

/-- **The type in which every class is replaced by its name**: which class of the name it is
is forgotten. -/
def nominal : Ty → Ty
  | .scalar kind => .scalar kind
  | .array element => .array element.nominal
  | .map key value => .map key.nominal value.nominal
  | .function params result => .function (nominalList params) result.nominal
  | .object cls => .object ⟨0, cls.name⟩

/-- The types in which every class is replaced by its name. -/
def nominalList : List Ty → List Ty
  | [] => []
  | t :: ts => t.nominal :: nominalList ts

end

theorem writtenList_eq_map (ts : List Ty) : writtenList ts = ts.map written := by
  induction ts with
  | nil => rw [writtenList, List.map_nil]
  | cons t ts ih => rw [writtenList, ih, List.map_cons]

theorem nominalList_eq_map (ts : List Ty) : nominalList ts = ts.map nominal := by
  induction ts with
  | nil => rw [nominalList, List.map_nil]
  | cons t ts ih => rw [nominalList, ih, List.map_cons]

theorem toList_textList {ts : List Ty}
    (h : ∀ t ∈ ts, t.text.toList = t.written.chars [' ', ':', ' ']) :
    (textList ts).toList = TypeExpr.charsList [' ', ':', ' '] (writtenList ts) := by
  induction ts with
  | nil => rfl
  | cons t ts ih =>
    obtain ⟨ht, hts⟩ := List.forall_mem_cons.mp h
    specialize ih hts
    cases ts with
    | nil => simp [textList, writtenList, TypeExpr.charsList, TypeExpr.charsTail, ht]
    | cons u us =>
      simpa [textList, writtenList, TypeExpr.charsList, TypeExpr.charsTail, ht] using ih

theorem toList_text (t : Ty) : t.text.toList = t.written.chars [' ', ':', ' '] := by
  induction t with
  | scalar | object => simp [text, written, TypeExpr.named, TypeExpr.chars]
  | array element ih => simp [text, written, TypeExpr.chars, ih]
  | map key value ihkey ihvalue => simp [text, written, TypeExpr.chars, ihkey, ihvalue]
  | function params result ihparams ihresult =>
    simp [text, written, TypeExpr.chars, toList_textList ihparams, ihresult]

/-! ### Types that read the same -/

theorem respell_written (t : Ty) : t.written.respell .blank = t.written := by
  induction t with
  | scalar | object => rfl
  | array element ih => rw [written, TypeExpr.respell, ih]
  | map key value ihkey ihvalue => rw [written, TypeExpr.respell, ihkey, ihvalue]
  | function params result ihparams ihresult =>
    have hparams : (writtenList params).map (TypeExpr.respell .blank) = writtenList params := by
      rw [writtenList_eq_map, List.map_map]
      exact List.map_congr_left ihparams
    rw [written, TypeExpr.respell, TypeExpr.respellTypeExprs_eq_map, hparams, ihresult]

/-- What a type is written as depends on the names of its classes only. -/
theorem written_nominal (t : Ty) : t.nominal.written = t.written := by
  induction t with
  | scalar | object => rfl
  | array element ih => rw [nominal, written, written, ih]
  | map key value ihkey ihvalue => rw [nominal, written, written, ihkey, ihvalue]
  | function params result ihparams ihresult =>
    have hparams : writtenList (nominalList params) = writtenList params := by
      rw [nominalList_eq_map, writtenList_eq_map, writtenList_eq_map, List.map_map]
      exact List.map_congr_left ihparams
    rw [nominal, written, written, hparams, ihresult]

end Ty

/-- **A class with a name of its own**: a word that names no scalar. -/
def ClassRef.Proper (cls : ClassRef) : Prop :=
  IsWord cls.name ∧ ∀ kind : Scalar, cls.name ≠ kind.name

namespace Ty

/-- The classes in the type have names of their own. -/
def Proper (t : Ty) : Prop := ∀ cls ∈ t.classes, cls.Proper

theorem proper_array {element : Ty} : (array element).Proper ↔ element.Proper := Iff.rfl

theorem proper_map {key value : Ty} : (map key value).Proper ↔ key.Proper ∧ value.Proper :=
  List.forall_mem_append

theorem mem_listClasses {ts : List Ty} {cls : ClassRef} :
    cls ∈ listClasses ts ↔ ∃ t ∈ ts, cls ∈ t.classes := by
  induction ts with
  | nil => simp [listClasses]
  | cons t ts ih => simp [listClasses, ih]

theorem proper_function {params : List Ty} {result : Ty} :
    (function params result).Proper ↔ (∀ p ∈ params, p.Proper) ∧ result.Proper := by
  rw [Proper, classes, List.forall_mem_append]
  refine and_congr_left fun _ => ⟨fun h p hp cls hcls => ?_, fun h cls hcls => ?_⟩
  · exact h cls (mem_listClasses.mpr ⟨p, hp, hcls⟩)
  · obtain ⟨p, hp, hcls⟩ := mem_listClasses.mp hcls
    exact h p hp cls hcls

theorem proper_of_classes_eq_nil {t : Ty} (h : t.classes = []) : t.Proper := by
  rw [Proper, h]
  exact List.forall_mem_nil _

theorem Proper.words_written {t : Ty} (h : t.Proper) : t.written.Words := by
  induction t with
  | scalar kind => exact TypeExpr.words_name.mpr (isWord_scalar kind)
  | object cls => exact TypeExpr.words_name.mpr (h cls List.mem_cons_self).1
  | array element ih =>
    rw [written, TypeExpr.words_array]
    exact ih h
  | map key value ihkey ihvalue =>
    rw [written, TypeExpr.words_map]
    exact ⟨ihkey (proper_map.mp h).1, ihvalue (proper_map.mp h).2⟩
  | function params result ihparams ihresult =>
    obtain ⟨hparams, hresult⟩ := proper_function.mp h
    rw [written, TypeExpr.words_function, writtenList_eq_map]
    refine ⟨fun a ha => ?_, ihresult hresult⟩
    obtain ⟨p, hp, rfl⟩ := List.mem_map.mp ha
    exact ihparams p hp (hparams p hp)

theorem nominalList_eq_of_written {ts us : List Ty}
    (h : ∀ t ∈ ts, ∀ u ∈ us, t.written = u.written → t.nominal = u.nominal)
    (heq : writtenList ts = writtenList us) : nominalList ts = nominalList us := by
  induction ts generalizing us with
  | nil =>
    cases us with
    | nil => rfl
    | cons => simp [writtenList] at heq
  | cons t ts ih =>
    cases us with
    | nil => simp [writtenList] at heq
    | cons u us =>
      obtain ⟨htu, htus⟩ := List.cons.inj heq
      rw [nominalList, nominalList, h t List.mem_cons_self u List.mem_cons_self htu,
        ih (fun t ht u hu => h t (List.mem_cons_of_mem _ ht) u (List.mem_cons_of_mem _ hu)) htus]

/-- Types that are written alike differ in the identity of classes only: a class is not
written like a scalar. -/
theorem nominal_eq_of_written_eq {a b : Ty} (ha : a.Proper) (hb : b.Proper)
    (h : a.written = b.written) : a.nominal = b.nominal := by
  induction a generalizing b with
  | scalar kind =>
    cases b with
    | scalar kind' =>
      rw [Scalar.eq_of_name_eq (TypeExpr.name.inj h).1]
    | object cls => exact absurd (TypeExpr.name.inj h).1.symm ((hb cls List.mem_cons_self).2 kind)
    | array | map | function => simp [written, TypeExpr.named] at h
  | object cls =>
    cases b with
    | scalar kind => exact absurd (TypeExpr.name.inj h).1 ((ha cls List.mem_cons_self).2 kind)
    | object cls' => rw [nominal, nominal, (TypeExpr.name.inj h).1]
    | array | map | function => simp [written, TypeExpr.named] at h
  | array element ih =>
    cases b with
    | array element' =>
      rw [written, written] at h
      rw [nominal, nominal, ih (proper_array.mp ha) (proper_array.mp hb) (TypeExpr.array.inj h)]
    | scalar | object | map | function => simp [written, TypeExpr.named] at h
  | map key value ihkey ihvalue =>
    cases b with
    | map key' value' =>
      rw [written, written] at h
      obtain ⟨hkeys, hvalues⟩ := TypeExpr.map.inj h
      rw [nominal, nominal, ihkey (proper_map.mp ha).1 (proper_map.mp hb).1 hkeys,
        ihvalue (proper_map.mp ha).2 (proper_map.mp hb).2 hvalues]
    | scalar | object | array | function => simp [written, TypeExpr.named] at h
  | function params result ihparams ihresult =>
    cases b with
    | function params' result' =>
      obtain ⟨hparams, hresult⟩ := proper_function.mp ha
      obtain ⟨hparams', hresult'⟩ := proper_function.mp hb
      rw [written, written] at h
      obtain ⟨hlists, hresults⟩ := TypeExpr.function.inj h
      have heq := nominalList_eq_of_written
        (fun p hp q hq hpq => ihparams p hp (hparams p hp) (hparams' q hq) hpq) hlists
      rw [nominal, nominal, heq, ihresult hresult hresult' hresults]
    | scalar | object | array | map => simp [written, TypeExpr.named] at h

/-- **Types with the same text are the same up to the identity of their classes**, if the
classes have names of their own. -/
theorem text_eq_iff {a b : Ty} (ha : a.Proper) (hb : b.Proper) :
    a.text = b.text ↔ a.nominal = b.nominal := by
  have hsep : TypeExpr.Separates [' ', ':', ' '] := ⟨' ', by decide, [':', ' '], rfl⟩
  rw [← String.toList_inj, toList_text, toList_text,
    TypeExpr.chars_eq_iff hsep ha.words_written hb.words_written, respell_written,
    respell_written]
  refine ⟨nominal_eq_of_written_eq ha hb, fun h => ?_⟩
  rw [← written_nominal a, h, written_nominal]

theorem nominal_of_classes_eq_nil {t : Ty} (h : t.classes = []) : t.nominal = t := by
  induction t with
  | scalar => rfl
  | object => cases h
  | array element ih => rw [nominal, ih h]
  | map key value ihkey ihvalue =>
    obtain ⟨hkey, hvalue⟩ := List.append_eq_nil_iff.mp h
    rw [nominal, ihkey hkey, ihvalue hvalue]
  | function params result ihparams ihresult =>
    obtain ⟨hparams, hresult⟩ := List.append_eq_nil_iff.mp h
    have hmem : ∀ p ∈ params, p.classes = [] := fun p hp =>
      List.subset_nil.mp (listClasses_subset_iff.mp (List.subset_nil.mpr hparams) p hp)
    have hlist : nominalList params = params := by
      rw [nominalList_eq_map, List.map_congr_left fun p hp => ihparams p hp (hmem p hp),
        List.map_id']
    rw [nominal, hlist, ihresult hresult]

/-- **A type without classes is told by its text.** -/
theorem eq_of_text_eq {a b : Ty} (ha : a.classes = []) (hb : b.classes = [])
    (h : a.text = b.text) : a = b := by
  have heq := (text_eq_iff (proper_of_classes_eq_nil ha) (proper_of_classes_eq_nil hb)).mp h
  rwa [nominal_of_classes_eq_nil ha, nominal_of_classes_eq_nil hb] at heq

end Ty

end Shipshape
