/-
  SQL tokens: the units that a statement is written from.

  Keywords, punctuation and the blank are typed, so that the shape of a
  statement is decided in one place; `name` carries an identifier that is
  quoted when written, and `raw` a text that is written as it stands.

  * `Token.text` is the written form of one token, `Token.render` of a list;
  * `Token.separated` puts the same tokens between consecutive lists.
-/
import EnergyQuery.Text.Quoted

namespace EnergyQuery.Sql

/-- A unit of a written statement. -/
inductive Token where
  | kwWith
  | kwSelect
  | kwFrom
  | kwWhere
  | kwAs
  | kwJoin
  | kwOn
  | kwOffset
  | comma
  | leftParen
  | rightParen
  | space
  /-- An identifier, quoted when written. -/
  | name (n : String)
  | number (n : Int)
  /-- A text written as it stands. -/
  | raw (text : String)
  deriving DecidableEq, Repr

namespace Token

/-- The written form of a token. -/
def text : Token → String
  | kwWith => "WITH"
  | kwSelect => "SELECT"
  | kwFrom => "FROM"
  | kwWhere => "WHERE"
  | kwAs => "AS"
  | kwJoin => "JOIN"
  | kwOn => "ON"
  | kwOffset => "OFFSET"
  | comma => ","
  | leftParen => "("
  | rightParen => ")"
  | space => " "
  | name n => Text.quoteName n
  | number n => toString n
  | raw t => t

/-- The written form of a list of tokens: no text stands between two of them. -/
def render (ts : List Token) : String :=
  String.join (ts.map text)

/-- The lists one after the other, with `sep` between consecutive ones. -/
def separated (sep : List Token) : List (List Token) → List Token
  | [] => []
  | [ts] => ts
  | ts :: more => ts ++ sep ++ separated sep more

theorem render_cons {t : Token} {ts : List Token} : render (t :: ts) = t.text ++ render ts :=
  String.join_cons

@[simp] theorem render_append (s t : List Token) : render (s ++ t) = render s ++ render t := by
  simp [render]

end Token

end EnergyQuery.Sql
