import ParameterTemplates.Text.Basic

/-! What stays of a text when its control sequences and its control characters are left out. -/
namespace ParameterTemplates.Text

/-- How far a control sequence has been read. -/
inductive Sequence where
  /-- The escape character stands alone. -/
  | escape
  /-- Intermediates follow the escape character. -/
  | intermediates
  /-- A control sequence is short of its final character. -/
  | control
  /-- A device control string begins. -/
  | device
  /-- A device control string has parameters. -/
  | deviceParameters
  /-- A device control string has intermediates. -/
  | deviceIntermediates
  /-- An operating system command runs to its bell. -/
  | command
  /-- Data runs to a terminator of one byte. -/
  | data
  deriving DecidableEq

/-- Where a reader of a text with control sequences stands. A break inside a sequence pauses it. -/
inductive Position where
  | outside
  | inside (s : Sequence)
  | paused (s : Sequence)
  deriving DecidableEq

/-- The control characters that lay a text out. -/
def isBreak (c : Char) : Bool := c == '\t' || c == '\n' || c == '\x0c' || c == '\r'

/-- Whether a character outside of sequences stays. -/
def isPlain (c : Char) : Bool := isBreak c || (' ' ≤ c && c != '\x7f')

def isIntermediate (c : Char) : Bool := ' ' ≤ c && c ≤ '/'

def isParameter (c : Char) : Bool := '0' ≤ c && c ≤ '?'

def isFinal (c : Char) : Bool := '@' ≤ c && c ≤ '~'

/-- Whether the encoding of a character holds the terminator of one byte. -/
def holdsTerminator (c : Char) : Bool := (String.utf8EncodeChar c).contains 0x9C

namespace Sequence

/-- What follows the escape character. A character that no sequence begins with ends it, and one
that is out of place is passed over. -/
def begin? (c : Char) : Option Sequence :=
  if c = '[' then some control
  else if c = ']' then some command
  else if c = 'P' then some device
  else if c = 'X' || c = '^' || c = '_' then some data
  else if isIntermediate c then some intermediates
  else if isParameter c || isFinal c then none
  else some escape

/-- The sequence after one more character, if it is not over. -/
def next? : Sequence → Char → Option Sequence
  | escape, c => begin? c
  | intermediates, c => if isParameter c || isFinal c then none else some intermediates
  | control, c => if isFinal c then none else some control
  | device, c =>
    if isIntermediate c then some deviceIntermediates
    else if isParameter c then some deviceParameters
    else if isFinal c then some data
    else some device
  | deviceParameters, c =>
    if isIntermediate c then some deviceIntermediates
    else if ('<' ≤ c && c ≤ '?') || isFinal c then some data
    else some deviceParameters
  | deviceIntermediates, c =>
    if isParameter c || isFinal c then some data else some deviceIntermediates
  | command, c => if c = '\x07' then none else some command
  | data, c => if holdsTerminator c then none else some data

/-- Whether breaks inside the sequence stay. -/
def keepsBreaks : Sequence → Bool
  | escape | intermediates | control => true
  | _ => false

end Sequence

namespace Position

/-- Whether the next character stays. -/
def keeps : Position → Char → Bool
  | inside s, c => s.keepsBreaks && isBreak c
  | _, c => isPlain c

/-- An escape character begins a sequence anywhere, and cancel and substitute end one. A paused
sequence goes on at the next character that does not stay, unless one beyond ASCII comes first. -/
def step (p : Position) (c : Char) : Position :=
  if c = '\x1b' then inside .escape
  else if c = '\x18' || c = '\x1a' then outside
  else
    match p with
    | outside => outside
    | inside s =>
      if s.keepsBreaks && isBreak c then paused s
      else
        match s.next? c with
        | some s => inside s
        | none => outside
    | paused s => if '\x7f' < c then outside else if isPlain c then paused s else inside s

end Position

/-- What stays of a text from a position on. -/
def plainFrom : Position → Text → Text
  | _, [] => []
  | p, c :: t =>
    if p.keeps c then c :: plainFrom (p.step c) t else plainFrom (p.step c) t

def plain (t : Text) : Text := plainFrom .outside t

theorem step_outside {c : Char} (h : isPlain c = true) : Position.step .outside c = .outside := by
  have hc : c ≠ '\x1b' := by
    rintro rfl
    exact absurd h (by decide)
  simp [Position.step, hc]

/-- A text without control characters stays whole. -/
theorem plain_of_forall {t : Text} (h : ∀ c ∈ t, isPlain c = true) : plain t = t := by
  unfold plain
  induction t with
  | nil => rfl
  | cons c t ih =>
    have hc := h c (by simp)
    rw [plainFrom, step_outside hc, ih fun d hd => h d (by simp [hd])]
    simp [Position.keeps, hc]

theorem isPlain_of_isDigit {c : Char} (h : c.isDigit = true) : isPlain c = true := by
  simp only [Char.isDigit, Bool.and_eq_true, decide_eq_true_eq, ge_iff_le,
    UInt32.le_iff_toNat_le] at h
  have hzero : '0'.val.toNat = 48 := rfl
  have hspace : ' ' ≤ c := by
    rw [Char.le_def, UInt32.le_iff_toNat_le]
    have hblank : ' '.val.toNat = 32 := rfl
    omega
  have hdelete : c ≠ '\x7f' := by
    rintro rfl
    exact absurd h.2 (by decide)
  simp [isPlain, hspace, hdelete]

end ParameterTemplates.Text
