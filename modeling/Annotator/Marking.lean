import Annotator.Error
import Annotator.Keyword
import Annotator.Pattern.Matcher
import Annotator.Vocabulary

/-!
# Markings

The rules of a grammar made ready to mark plain text. A keyword rule puts every occurrence of each
of its words in a span with the class of its type and its meaning; its words are taken in turn, each
over what the ones before it left. A pattern rule puts every match in a span, or a replacement in its
place.
-/

namespace Annotator

/-- A word that is put in spans. -/
structure WordMarking where
  keyword : Keyword
  className : String
  description : String
  deriving Repr, DecidableEq

/-- What is put in place of a match of a pattern. -/
inductive Replacement where
  /-- A template in its resolved form. -/
  | template (resolved : List Char)
  /-- A span with a class around the match. -/
  | wrap (className : String)
  deriving Repr, DecidableEq

/-- A rule made ready. -/
inductive Marking where
  | words (name : String) (words : List WordMarking)
  | pattern (name : String) (matcher : Pattern.Matcher) (replacement : Replacement)

namespace WordMarking

/-- The first characters of keywords that are never bounded. -/
def sentinels : List Char := ['@', '$', '%']

/-- Whether a keyword is never bounded. -/
def isSentinel (keyword : List Char) : Bool := keyword.head?.any sentinels.contains

/-- The keyword that is searched for a word of a rule. -/
def keywordOf (rule : KeywordRule) (token : Token) : Keyword :=
  let text := token.keyword.toList
  ⟨text, rule.caseSensitive, rule.wordBoundaries && !isSentinel text⟩

/-- The marking of a word of a rule. -/
def ofToken (v : Vocabulary) (rule : KeywordRule) (token : Token) : Except Error WordMarking :=
  let keyword := keywordOf rule token
  if keyword.isSearchable then .ok ⟨keyword, v.classOf token.typeName, token.description⟩
  else .error (.invalidPattern rule.name)

/-- The opening tag of the spans. -/
def opening (w : WordMarking) : List Char :=
  ("<span class='" ++ w.className ++ "' title='" ++ w.description ++ "'>").toList

/-- The text with every occurrence of the word in a span. -/
def apply (w : WordMarking) (text : List Char) : List Char :=
  (w.keyword.search.cut text).replace fun matched _ =>
    w.opening ++ matched ++ "</span>".toList

end WordMarking

namespace Replacement

/-- The text of an option that is there and not empty. -/
def given (s : Option String) : Option String := s.filter (· != "")

/-- The replacement of a rule: its template, or else a span with the class of its type. -/
def ofRule (v : Vocabulary) (m : Pattern.Matcher) (rule : PatternRule) : Replacement :=
  match given rule.replacement, given rule.typeName with
  | some t, _ => template (Pattern.Template.resolve m.groups t.toList)
  | none, some typeName => wrap (v.classOf typeName)
  | none, none => wrap ClassName.unknown

/-- What is put in place of a match. -/
def text (r : Replacement) (m : Pattern.Matcher) (matched : List Char)
    (groups : List (Option (List Char))) : List Char :=
  match r with
  | template resolved => Pattern.Template.expand m.groups resolved matched groups
  | wrap className =>
    ("<span class='" ++ className ++ "'>").toList ++ matched ++ "</span>".toList

end Replacement

namespace Marking

/-- The name of the rule. -/
def name : Marking → String
  | words n _ => n
  | pattern n _ _ => n

/-- The marking of a keyword rule. -/
def ofKeywordRule (v : Vocabulary) (rule : KeywordRule) : Except Error Marking :=
  (rule.tokens.mapM (WordMarking.ofToken v rule)).map (words rule.name)

/-- The marking of a pattern rule. -/
def ofPatternRule (v : Vocabulary) (rule : PatternRule) : Except Error Marking :=
  match Pattern.Matcher.ofPattern? rule.pattern with
  | none => .error (.invalidPattern rule.name)
  | some m => .ok (pattern rule.name m (Replacement.ofRule v m rule))

/-- The marking of a rule; none for a rule that annotates nothing. -/
def ofRule (v : Vocabulary) : Rule → Except Error (Option Marking)
  | .keyword rule => some <$> ofKeywordRule v rule
  | .pattern rule => some <$> ofPatternRule v rule
  | .other _ => .ok none

/-- The marked text. -/
def apply (a : Marking) (text : List Char) : List Char :=
  match a with
  | words _ ws => ws.foldl (fun t w => w.apply t) text
  | pattern _ m r => (m.search.cut text).replace (r.text m)

end Marking

end Annotator
