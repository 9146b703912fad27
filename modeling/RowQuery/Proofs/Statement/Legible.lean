/-
# Expressions that need no parentheses

The text of an expression has no parentheses for grouping. It says enough if
every operand binds as tightly as the grammar wants it at its place: then the
expression is *legible*. Its text is cut into the pieces that one expects: a
blank, a comma or a parenthesis is between any two of them that could run
together, and a minus sign stands in front of a digit or a blank.

Key definitions: `Expr.level`, `Expr.legible`, `Expr.pieces`.
Key theorem: `Expr.cuts_text`.
-/
import RowQuery.Proofs.Token.Piece

namespace RowQuery

open List Token

attribute [local irreducible] Binary64.one Binary64.limit

/-! ### Levels -/

namespace BinaryOp

/-- How tightly an operator binds: products at level 1, sums at 2, comparisons at 3, conjunctions
at 4. -/
def level : BinaryOp → Nat
  | .multiply | .divide => 1
  | .add | .subtract => 2
  | .equal | .notEqual | .less | .greater | .lessEqual | .greaterEqual => 3
  | .and => 4

/-- The level that a left operand may have: comparisons do not associate, the others do to the
left. -/
def leftLevel (op : BinaryOp) : Nat := if op.level = 3 then 2 else op.level

/-- The level that a right operand may have. -/
def rightLevel (op : BinaryOp) : Nat := op.level - 1

/-- An operator as a piece of text. -/
def piece : BinaryOp → Piece
  | .add => (.plus, "+")
  | .subtract => (.minus, "-")
  | .multiply => (.asterisk, "*")
  | .divide => (.slash, "/")
  | .equal => (.equal, "=")
  | .notEqual => (.notEqual, "!=")
  | .less => (.less, "<")
  | .greater => (.greater, ">")
  | .lessEqual => (.lessEqual, "<=")
  | .greaterEqual => (.greaterEqual, ">=")
  | .and => (.keyword .AND, "AND")

end BinaryOp

namespace Expr

/-- The level of an expression: what is no operation binds most tightly. -/
def level : Expr → Nat
  | .binary _ op _ => op.level
  | .isNull .. | .inList .. | .like .. => 3
  | _ => 0

/-! ### Legible expressions -/

/-- Literals that are written as they are read: the digits of an integer are read before its
sign, so that the least one is none of them. -/
def legibleLiteral : Value → Bool
  | .null | .boolean _ | .string _ => true
  | .integer n => n.toInt.natAbs ≤ 2 ^ 63 - 1
  | _ => false

/-- The name of a function as the grammar gives it: in capitals, as to the letters A to Z. -/
def legibleFunction (name : String) : Bool := isName name && name.toList.all fun c => !c.isLower

mutual

/-- Whether an expression needs no parentheses. -/
def legible : Expr → Bool
  | .identifier name => isName name
  | .literal value => legibleLiteral value
  | .binary left op right =>
    left.legible && right.legible && left.level ≤ op.leftLevel && right.level ≤ op.rightLevel
  | .isNull operand _ => operand.legible && operand.level ≤ 2
  | .inList left candidates _ =>
    left.legible && left.level ≤ 2 && !candidates.isEmpty && allLegible candidates
  | .like left pattern _ =>
    left.legible && pattern.legible && left.level ≤ 2 && pattern.level ≤ 2
  | .call name args => legibleFunction name && allLegible args
  | .window name args partitionBy orderBy =>
    legibleFunction name && allLegible args && allLegible partitionBy && keysLegible orderBy
  | .case branches otherwise =>
    !branches.isEmpty && branchesLegible branches && optionLegible otherwise
  | .star => true
  | .subquery _ => false

def allLegible : List Expr → Bool
  | [] => true
  | e :: rest => e.legible && allLegible rest

def keysLegible : List SortKey → Bool
  | [] => true
  | ⟨e, _⟩ :: rest => e.legible && keysLegible rest

def branchesLegible : List Branch → Bool
  | [] => true
  | ⟨condition, result⟩ :: rest => condition.legible && result.legible && branchesLegible rest

def optionLegible : Option Expr → Bool
  | none => true
  | some e => e.legible

end

/-! ### Pieces -/

/-- The pieces of an integer. -/
def integerPieces (n : Int) : List Piece :=
  if n < 0 then [minus, digits n.natAbs] else [digits n.natAbs]

/-- The pieces of a literal. -/
def literalPieces : Value → List Piece
  | .null => [word .NULL]
  | .boolean b => [if b then (.keyword .TRUE, "true") else (.keyword .FALSE, "false")]
  | .string s => [(.string, s)]
  | .integer n => integerPieces n.toInt
  | _ => []

def negationPieces (negated : Bool) : List Piece := if negated then [word .NOT] else []

def directionPieces : Direction → List Piece
  | .ascending => []
  | .descending => [word .DESC]

mutual

/-- The pieces of the text of an expression. -/
def pieces : Expr → List Piece
  | .identifier name => [(.identifier, name)]
  | .literal value => literalPieces value
  | .binary left op right => left.pieces ++ op.piece :: right.pieces
  | .isNull operand negated =>
    operand.pieces ++ word .IS :: (negationPieces negated ++ [word .NULL])
  | .inList left candidates negated =>
    left.pieces ++ (negationPieces negated ++
      word .IN :: leftParen :: (listPieces candidates ++ [rightParen]))
  | .like left pattern negated =>
    left.pieces ++ (negationPieces negated ++ word .LIKE :: pattern.pieces)
  | .call name args => (.identifier, name) :: leftParen :: (listPieces args ++ [rightParen])
  | .window name args partitionBy orderBy =>
    (.identifier, name) :: leftParen :: (listPieces args ++ rightParen :: word .OVER :: leftParen ::
      ((if partitionBy.isEmpty then [] else word .PARTITION :: word .BY :: listPieces partitionBy) ++
        ((if orderBy.isEmpty then [] else word .ORDER :: word .BY :: keysPieces orderBy) ++
          [rightParen])))
  | .case branches otherwise =>
    word .CASE :: (branchesPieces branches ++ (otherwisePieces otherwise ++ [word .END]))
  | .star => [asterisk]
  | .subquery _ => []

def listPieces : List Expr → List Piece
  | [] => []
  | [e] => e.pieces
  | e :: rest => e.pieces ++ comma :: listPieces rest

def keysPieces : List SortKey → List Piece
  | [] => []
  | [⟨e, direction⟩] => e.pieces ++ directionPieces direction
  | ⟨e, direction⟩ :: rest => e.pieces ++ directionPieces direction ++ comma :: keysPieces rest

def branchesPieces : List Branch → List Piece
  | [] => []
  | ⟨condition, result⟩ :: rest =>
    word .WHEN :: (condition.pieces ++ word .THEN :: (result.pieces ++ branchesPieces rest))

def otherwisePieces : Option Expr → List Piece
  | none => []
  | some e => word .ELSE :: e.pieces

end

end Expr

/-! ### What stands between expressions -/

namespace Token

variable {G : List Char → Prop} {text text' : String} {ps qs : List Piece}

/-- A text and one that starts with a blank, a comma or a parenthesis. -/
theorem Cuts.apart (h : Cuts Apart text ps) (h' : Cuts G text' qs) {c : Char}
    (hfirst : text'.toList.head? = some c) (hc : c ∈ delimiters) :
    Cuts G (text ++ text') (ps ++ qs) := by
  refine h.append h' fun rest _ => ?_
  obtain ⟨tail, htail⟩ := head?_eq_some_iff.1 hfirst
  rw [htail]
  exact apart_cons hc _

/-- A text that is written in another way. -/
theorem Cuts.written (h : Cuts G text ps) (htext : text' = text) : Cuts G text' ps := htext ▸ h

/-- A text with a blank after it. -/
theorem Cuts.blank (h : Cuts Apart text ps) : Cuts Anything (text ++ " ") ps := by
  have hblank := h.apart cuts_blank rfl (by decide)
  rwa [append_nil] at hblank

/-- A keyword with blanks around it, after a text. -/
theorem Cuts.spaced (h : Cuts Apart text ps) (w : Keyword) :
    Cuts Anything (text ++ (" " ++ w.spelling ++ " ")) (ps ++ [word w]) :=
  h.apart (c := ' ') (cuts_blank.before (cuts_keyword w)).blank (by simp) (by decide)

theorem cuts_leftParen : Cuts Anything "(" [leftParen] :=
  fun _ _ => pieces_cons (by decide) (.inl (by decide)) rfl

theorem cuts_rightParen : Cuts Anything ")" [rightParen] :=
  fun _ _ => pieces_cons (by decide) (.inl (by decide)) rfl

theorem cuts_asterisk : Cuts Anything "*" [asterisk] :=
  fun _ _ => pieces_cons (by decide) (.inl (by decide)) rfl

theorem cuts_comma : Cuts Anything ", " [comma] := by
  intro rest _
  have hlexeme : lexeme ',' (' ' :: rest) = (.comma, [','], ' ' :: rest) := rfl
  have hpieces := pieces_cons (by decide) (.inl (by decide)) hlexeme
  rwa [pieces_blank] at hpieces

/-- A sign of one character or two, with a blank after it. -/
theorem cuts_sign {c : Char} {s : List Char} {kind : TokenKind} (hblank : Text.isBlank c = false)
    (htail : s.head? ≠ some '-')
    (h : ∀ rest, lexeme c (s ++ ' ' :: rest) = (kind, c :: s, ' ' :: rest)) :
    Cuts Anything (String.ofList (c :: s) ++ " ") [(kind, String.ofList (c :: s))] := by
  intro rest _
  have hfirst : (s ++ ' ' :: rest).head? ≠ some '-' := by
    cases s with
    | nil => exact nofun
    | cons d more => exact htail
  rw [String.toList_append, String.toList_ofList, append_assoc]
  show Token.pieces (c :: (s ++ ' ' :: rest)) = _
  rw [pieces_cons hblank (.inr hfirst) (h rest), pieces_blank]
  rfl

/-- An operator is followed by a blank. -/
theorem cuts_symbol (op : BinaryOp) : Cuts Anything (op.symbol ++ " ") [op.piece] := by
  cases op with
  | add => exact cuts_sign (c := '+') (s := []) rfl nofun fun _ => rfl
  | subtract => exact cuts_sign (c := '-') (s := []) rfl nofun fun _ => rfl
  | multiply => exact cuts_sign (c := '*') (s := []) rfl nofun fun _ => rfl
  | divide => exact cuts_sign (c := '/') (s := []) rfl nofun fun _ => rfl
  | equal => exact cuts_sign (c := '=') (s := []) rfl nofun fun _ => rfl
  | notEqual => exact cuts_sign (c := '!') (s := ['=']) rfl (by decide) fun _ => rfl
  | less => exact cuts_sign (c := '<') (s := []) rfl nofun fun _ => rfl
  | greater => exact cuts_sign (c := '>') (s := []) rfl nofun fun _ => rfl
  | lessEqual => exact cuts_sign (c := '<') (s := ['=']) rfl (by decide) fun _ => rfl
  | greaterEqual => exact cuts_sign (c := '>') (s := ['=']) rfl (by decide) fun _ => rfl
  | and => exact (cuts_keyword .AND).blank

end Token

namespace Expr

/-! ### Leaves -/

theorem cuts_negation {G : List Char → Prop} {text : String} {ps : List Piece} (negated : Bool)
    (h : Cuts G text ps) : Cuts G (negation negated ++ text) (negationPieces negated ++ ps) := by
  cases negated with
  | false => exact (Cuts.empty (F := Anything)).before h
  | true => exact (cuts_keyword .NOT).blank.before h

theorem cuts_boolean (b : Bool) :
    Cuts Apart (literalText (.boolean b)) (literalPieces (.boolean b)) := by
  cases b with
  | true => exact cuts_word (by decide : isWord ['t', 'r', 'u', 'e'] = true)
  | false => exact cuts_word (by decide : isWord ['f', 'a', 'l', 's', 'e'] = true)

/-- A minus sign in front of digits starts no comment. -/
theorem cuts_integer (n : Int) : Cuts Apart (String.ofList (Numeral.ofInt n)) (integerPieces n) := by
  have hdigits := cuts_natural n.natAbs
  unfold Numeral.ofInt integerPieces
  by_cases hn : n < 0
  · rw [if_pos hn, if_pos hn]
    intro rest hrest
    have hfirst : (Nat.toDigits 10 n.natAbs ++ rest).head? ≠ some '-' := by
      cases hcons : Nat.toDigits 10 n.natAbs with
      | nil => exact absurd hcons Nat.toDigits_ne_nil
      | cons c tail =>
        have hc : c.isDigit = true := Numeral.isDigit_toDigits (hcons ▸ mem_cons_self)
        rintro ⟨⟩
        exact absurd hc (by decide)
    have hminus : lexeme '-' (Nat.toDigits 10 n.natAbs ++ rest) =
      (.minus, ['-'], Nat.toDigits 10 n.natAbs ++ rest) := rfl
    have hcut := hdigits rest hrest
    rw [String.toList_ofList] at hcut ⊢
    rw [cons_append, pieces_cons (by decide) (.inr hfirst) hminus, hcut]
    rfl
  · rw [if_neg hn, if_neg hn]
    exact hdigits

theorem cuts_literal {value : Value} (h : legibleLiteral value = true) :
    Cuts Apart (literalText value) (literalPieces value) := by
  cases value with
  | null => exact cuts_keyword .NULL
  | boolean b => exact cuts_boolean b
  | string s => exact cuts_string s
  | number n =>
    cases n with
    | integer n => exact cuts_integer n.toInt
    | float x => simp [legibleLiteral] at h
  | array items => simp [legibleLiteral] at h
  | object fields => simp [legibleLiteral] at h

/-! ### All expressions -/

theorem isName_of_legibleFunction {name : String} (h : legibleFunction name = true) :
    isName name = true :=
  (Bool.and_eq_true_iff.1 h).1

/-- Branches start with a blank, if there are any. -/
theorem apart_branchesText {rest : List Char} (branches : List Branch) (hrest : Apart rest) :
    Apart ((branchesText branches).toList ++ rest) := by
  cases branches with
  | nil => exact hrest
  | cons branch bs =>
    obtain ⟨condition, result⟩ := branch
    rw [branchesText, String.append_assoc, String.append_assoc, String.append_assoc,
      String.toList_append, append_assoc]
    exact apart_cons (by decide) _

theorem apart_otherwiseText {rest : List Char} (otherwise : Option Expr) (hrest : Apart rest) :
    Apart ((otherwiseText otherwise).toList ++ rest) := by
  cases otherwise with
  | none => exact hrest
  | some e =>
    rw [otherwiseText, String.toList_append, append_assoc]
    exact apart_cons (by decide) _

theorem apart_directionText {rest : List Char} (direction : Direction) (hrest : Apart rest) :
    Apart ((directionText direction).toList ++ rest) := by
  cases direction with
  | ascending => exact hrest
  | descending => exact apart_cons (by decide) _

theorem cuts_directionText (direction : Direction) :
    Cuts Apart (directionText direction) (directionPieces direction) := by
  cases direction with
  | ascending => exact .empty
  | descending => exact (cuts_blank.before (cuts_keyword .DESC)).written rfl

/-- The partition and the order of a window, with its last parenthesis. -/
theorem cuts_windowText {partitionBy : List Expr} {orderBy : List SortKey}
    (hpartition : Cuts Apart (listText partitionBy) (listPieces partitionBy))
    (horder : Cuts Apart (keysText orderBy) (keysPieces orderBy)) :
    Cuts Anything
      ((if partitionBy.isEmpty then "" else "PARTITION BY ") ++ listText partitionBy ++
        between (!partitionBy.isEmpty) (!orderBy.isEmpty) ++
        (if orderBy.isEmpty then "" else "ORDER BY ") ++ keysText orderBy ++ ")")
      ((if partitionBy.isEmpty then [] else word .PARTITION :: word .BY :: listPieces partitionBy) ++
        ((if orderBy.isEmpty then [] else word .ORDER :: word .BY :: keysPieces orderBy) ++
          [rightParen])) := by
  have hpart : Cuts Apart ("PARTITION BY " ++ listText partitionBy)
      (word .PARTITION :: word .BY :: listPieces partitionBy) :=
    (((cuts_keyword .PARTITION).blank.before (cuts_keyword .BY).blank).written rfl).before hpartition
  have hkeys : Cuts Anything ("ORDER BY " ++ keysText orderBy ++ ")")
      (word .ORDER :: word .BY :: (keysPieces orderBy ++ [rightParen])) :=
    ((((cuts_keyword .ORDER).blank.before (cuts_keyword .BY).blank).written rfl).before horder).apart
      cuts_rightParen rfl (by decide)
  cases partitionBy with
  | nil =>
    cases orderBy with
    | nil => exact cuts_rightParen
    | cons k rest => exact hkeys
  | cons e rest =>
    cases orderBy with
    | nil =>
      have hall := hpart.apart cuts_rightParen rfl (by decide)
      simpa [between, keysText] using hall
    | cons k keys =>
      have hall := hpart.blank.before hkeys
      simpa [between, String.append_assoc, -String.reduceAppend] using hall

mutual

/-- **The text of a legible expression is cut into its pieces.** -/
theorem cuts_text : ∀ e : Expr, e.legible = true → Cuts Apart e.text e.pieces
  | .identifier name, h => cuts_name h
  | .literal value, h => cuts_literal h
  | .binary left op right, h => by
    simp only [legible, Bool.and_eq_true] at h
    obtain ⟨⟨⟨hleft, hright⟩, -⟩, -⟩ := h
    have hop := (cuts_text left hleft).blank.before (cuts_symbol op)
    have hall := hop.before (cuts_text right hright)
    simpa only [text, pieces, append_assoc, String.append_assoc, singleton_append] using hall
  | .isNull operand negated, h => by
    simp only [legible, Bool.and_eq_true] at h
    have his : Cuts Anything (operand.text ++ " IS ") _ :=
      ((cuts_text operand h.1).spaced .IS).written rfl
    have hnull : Cuts Apart (negation negated ++ "NULL") _ :=
      (cuts_negation negated (cuts_keyword .NULL)).written rfl
    have hall := his.before hnull
    simpa only [text, pieces, append_assoc, String.append_assoc, singleton_append] using hall
  | .inList left candidates negated, h => by
    simp only [legible, Bool.and_eq_true] at h
    obtain ⟨⟨⟨hleft, -⟩, -⟩, hcandidates⟩ := h
    have hin : Cuts Anything (negation negated ++ "IN (") _ :=
      (cuts_negation negated ((cuts_keyword .IN).blank.before cuts_leftParen)).written rfl
    have hlist : Cuts Anything (listText candidates ++ ")") _ :=
      (cuts_listText candidates hcandidates).apart cuts_rightParen rfl (by decide)
    have hall := (cuts_text left hleft).blank.before (hin.before hlist)
    simpa only [text, pieces, append_assoc, String.append_assoc, cons_append, nil_append]
      using hall.mono fun _ _ => trivial
  | .like left pattern negated, h => by
    simp only [legible, Bool.and_eq_true] at h
    obtain ⟨⟨⟨hleft, hpattern⟩, -⟩, -⟩ := h
    have hlike : Cuts Anything (negation negated ++ "LIKE ") _ :=
      (cuts_negation negated (cuts_keyword .LIKE).blank).written rfl
    have hall := ((cuts_text left hleft).blank.before hlike).before (cuts_text pattern hpattern)
    simpa only [text, pieces, append_assoc, String.append_assoc, singleton_append] using hall
  | .call name args, h => by
    simp only [legible, Bool.and_eq_true] at h
    have hname := cuts_call h.1 args h.2
    simpa only [text, pieces] using hname.mono fun _ _ => trivial
  | .window name args partitionBy orderBy, h => by
    simp only [legible, Bool.and_eq_true] at h
    obtain ⟨⟨⟨hname, hargs⟩, hpartition⟩, horder⟩ := h
    have hover : Cuts Anything " OVER (" [word .OVER, leftParen] :=
      (cuts_blank.before ((cuts_keyword .OVER).blank.before cuts_leftParen)).written rfl
    have hwindow := cuts_windowText (cuts_listText partitionBy hpartition)
      (cuts_keysText orderBy horder)
    have hall := ((cuts_call hname args hargs).before hover).before hwindow
    have hsplit : ") OVER (" = ")" ++ " OVER (" := rfl
    simpa only [text, pieces, hsplit, append_assoc, String.append_assoc, cons_append, nil_append]
      using hall.mono fun _ _ => trivial
  | .case branches otherwise, h => by
    simp only [legible, Bool.and_eq_true] at h
    obtain ⟨⟨-, hbranches⟩, hotherwise⟩ := h
    have hend : Cuts Apart " END" [word .END] := (cuts_blank.before (cuts_keyword .END)).written rfl
    have helse := (cuts_otherwiseText otherwise hotherwise).apart hend rfl (by decide)
    have hopen : ∀ rest, Apart ((otherwiseText otherwise ++ " END").toList ++ rest) := fun rest => by
      rw [String.toList_append, append_assoc]
      exact apart_otherwiseText otherwise (apart_cons (by decide) _)
    have hwhen := (cuts_branchesText branches hbranches).append helse fun rest _ => hopen rest
    have hcase : Cuts Apart ("CASE" ++ _) ([word .CASE] ++ _) :=
      (cuts_keyword .CASE).append hwhen fun rest _ => by
        rw [String.toList_append, append_assoc]
        exact apart_branchesText branches (hopen rest)
    simpa only [text, pieces, append_assoc, String.append_assoc, cons_append, nil_append] using hcase
  | .star, _ => cuts_asterisk.mono fun _ _ => trivial

/-- A call, whatever follows it. -/
theorem cuts_call {name : String} (hname : legibleFunction name = true) (args : List Expr)
    (hargs : allLegible args = true) :
    Cuts Anything (name ++ "(" ++ listText args ++ ")")
      ((.identifier, name) :: leftParen :: (listPieces args ++ [rightParen])) := by
  have hopen := (cuts_name (isName_of_legibleFunction hname)).apart cuts_leftParen rfl (by decide)
  have hclose : Cuts Anything (listText args ++ ")") _ :=
    (cuts_listText args hargs).apart cuts_rightParen rfl (by decide)
  have hall := hopen.before hclose
  simpa only [append_assoc, String.append_assoc, cons_append, nil_append] using hall

theorem cuts_listText : ∀ es : List Expr, allLegible es = true →
    Cuts Apart (listText es) (listPieces es)
  | [], _ => .empty
  | [e], h => by
    simp only [allLegible, Bool.and_eq_true] at h
    simpa only [listText, listPieces] using cuts_text e h.1
  | e :: e' :: rest, h => by
    simp only [allLegible, Bool.and_eq_true] at h
    have hrest := cuts_listText (e' :: rest) (by simpa only [allLegible, Bool.and_eq_true] using h.2)
    have hall := ((cuts_text e h.1).apart cuts_comma rfl (by decide)).before hrest
    simpa only [listText, listPieces, append_assoc, String.append_assoc, singleton_append] using hall

theorem cuts_keysText : ∀ keys : List SortKey, keysLegible keys = true →
    Cuts Apart (keysText keys) (keysPieces keys)
  | [], _ => .empty
  | [⟨e, direction⟩], h => by
    simp only [keysLegible, Bool.and_eq_true] at h
    have hkey := (cuts_text e h.1).append (cuts_directionText direction) fun _ hrest =>
      apart_directionText direction hrest
    simpa only [keysText, keysPieces] using hkey
  | ⟨e, direction⟩ :: k :: rest, h => by
    simp only [keysLegible, Bool.and_eq_true] at h
    have hkey := (cuts_text e h.1).append (cuts_directionText direction) fun _ hrest =>
      apart_directionText direction hrest
    have hrest := cuts_keysText (k :: rest) (by simpa only [keysLegible, Bool.and_eq_true] using h.2)
    have hall := (hkey.apart cuts_comma rfl (by decide)).before hrest
    simpa only [keysText, keysPieces, append_assoc, String.append_assoc, singleton_append] using hall

theorem cuts_branchesText : ∀ branches : List Branch, branchesLegible branches = true →
    Cuts Apart (branchesText branches) (branchesPieces branches)
  | [], _ => .empty
  | ⟨condition, result⟩ :: rest, h => by
    simp only [branchesLegible, Bool.and_eq_true] at h
    obtain ⟨⟨hcondition, hresult⟩, hrest⟩ := h
    have hwhen : Cuts Anything " WHEN " [word .WHEN] :=
      (cuts_blank.before (cuts_keyword .WHEN).blank).written rfl
    have hthen : Cuts Anything (condition.text ++ " THEN ") _ :=
      ((cuts_text condition hcondition).spaced .THEN).written rfl
    have htail := (cuts_text result hresult).append (cuts_branchesText rest hrest) fun _ h =>
      apart_branchesText rest h
    have hall := hwhen.before (hthen.before htail)
    simpa only [branchesText, branchesPieces, append_assoc, String.append_assoc, cons_append,
      nil_append] using hall

theorem cuts_otherwiseText : ∀ otherwise : Option Expr, optionLegible otherwise = true →
    Cuts Apart (otherwiseText otherwise) (otherwisePieces otherwise)
  | none, _ => .empty
  | some e, h => by
    have helse : Cuts Anything " ELSE " [word .ELSE] :=
      (cuts_blank.before (cuts_keyword .ELSE).blank).written rfl
    simpa only [otherwiseText, otherwisePieces, singleton_append] using helse.before (cuts_text e h)

end

end Expr

end RowQuery
