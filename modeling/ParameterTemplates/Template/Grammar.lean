import ParameterTemplates.Template.Shape

/-! What templates look like in writing, said without the functions that read them. -/
namespace ParameterTemplates.Template
open Text

/-- Blanks, or nothing. -/
def IsGap (t : Text) : Prop := ∀ c ∈ t, isBlank c

/-- A letter or underscore, then letters, digits, underscores and hyphens. -/
def IsName : Text → Prop
  | [] => False
  | c :: t => isNameStart c ∧ ∀ d ∈ t, isNameChar d

/-- What may stand between the quotes of an operand. -/
inductive IsQuotedBody : Text → Prop where
  | nil : IsQuotedBody []
  | plain {c : Char} {t : Text} : c ≠ '"' → c ≠ '\\' → IsQuotedBody t → IsQuotedBody (c :: t)
  | escaped {c : Char} {t : Text} : c ≠ '\n' → IsQuotedBody t → IsQuotedBody ('\\' :: c :: t)

def IsQuotedOperand (t : Text) : Prop := ∃ body, IsQuotedBody body ∧ t = '"' :: body ++ ['"']

/-- Text without separators and quotes that neither begins nor ends with a blank. -/
structure IsBareOperand (t : Text) : Prop where
  nonempty : t ≠ []
  bare : ∀ c ∈ t, isBare c
  head : ∀ c ∈ t.head?, isBlank c = false
  last : ∀ c ∈ t.getLast?, isBlank c = false

def IsOperand (t : Text) : Prop := IsQuotedOperand t ∨ IsBareOperand t

/-- The right side that a blank or nonblank body of an equality stands for. -/
inductive IsRightSide : (body rhs : Text) → Prop where
  | trimmed {a b rhs : Text} : IsGap a → IsGap b → rhs ≠ [] →
      (∀ c ∈ rhs.head?, isBlank c = false) → (∀ c ∈ rhs.getLast?, isBlank c = false) →
      '\n' ∉ rhs → IsRightSide (a ++ rhs ++ b) rhs
  | blank {a b : Text} {c : Char} : IsGap a → isBlank c → c ≠ '\n' → (∀ d ∈ b, d = '\n') →
      IsRightSide (a ++ c :: b) [c]

/-- A complete string as the search for a question mark sees it, without its opening quote. -/
inductive IsStringRest : Text → Prop where
  | close : IsStringRest ['"']
  | plain {c : Char} {t : Text} : c ≠ '"' → c ≠ '\\' → IsStringRest t → IsStringRest (c :: t)
  | escaped {c : Char} {t : Text} : IsStringRest t → IsStringRest ('\\' :: c :: t)

/-- Single characters other than quotes, and complete strings. -/
inductive IsBlocks : Text → Prop where
  | nil : IsBlocks []
  | single {c : Char} {t : Text} : c ≠ '"' → IsBlocks t → IsBlocks (c :: t)
  | string {s t : Text} : IsStringRest s → IsBlocks t → IsBlocks ('"' :: s ++ t)

/-- The texts of each shape. -/
inductive Written : Shape → Text → Prop where
  | identity {name a b : Text} : IsName name → IsGap a → IsGap b →
      Written (.identity name) (openMark ++ a ++ referTo name ++ b ++ closeMark)
  | equality {name rhs body a b : Text} : IsName name → IsGap a → IsGap b →
      IsRightSide body rhs → hasOpenQuestion rhs = false →
      Written (.equality name rhs)
        (openMark ++ a ++ referTo name ++ b ++ ['=', '='] ++ body ++ closeMark)
  | dualEquality {left right a b c d : Text} : IsName left → IsName right →
      IsGap a → IsGap b → IsGap c → IsGap d →
      Written (.dualEquality left right)
        (openMark ++ a ++ referTo left ++ b ++ ['=', '='] ++ c ++ referTo right ++ d ++ closeMark)
  | ternary {name rhs thenBranch elseBranch a b c d e f g h : Text} : IsName name →
      IsOperand rhs → IsOperand thenBranch → IsOperand elseBranch → IsGap a → IsGap b → IsGap c →
      IsGap d → IsGap e → IsGap f → IsGap g → IsGap h →
      Written (.ternary name rhs thenBranch elseBranch)
        (openMark ++ a ++ referTo name ++ b ++ ['=', '='] ++ c ++ rhs ++ d ++ ['?'] ++ e ++
          thenBranch ++ f ++ [':'] ++ g ++ elseBranch ++ h ++ closeMark)
  | literalTernary {name thenBranch elseBranch a b c d e f : Text} : IsName name →
      IsOperand thenBranch → IsOperand elseBranch → IsGap a → IsGap b → IsGap c → IsGap d →
      IsGap e → IsGap f →
      Written (.literalTernary name thenBranch elseBranch)
        (openMark ++ a ++ referTo name ++ b ++ ['?'] ++ c ++ thenBranch ++ d ++ [':'] ++ e ++
          elseBranch ++ f ++ closeMark)

end ParameterTemplates.Template
