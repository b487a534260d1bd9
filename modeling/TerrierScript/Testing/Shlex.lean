import Mathlib.Data.List.Basic

/-!
# `shlex.split`

`run_command` (`testing/util/common.py`) starts `Popen(shlex.split(command))`.
`shlex.split` runs the `shlex` lexer in POSIX mode with `whitespace_split`
and no comment characters: whitespace (space, tab, carriage return, newline)
ends a word, single quotes take everything up to the next single quote,
double quotes take everything up to the next double quote but let a backslash
escape a double quote or a backslash, and outside quotes a backslash takes the
next character as it is.  An unclosed quote and a backslash at the end raise
`ValueError`.

`shlexFrom` is `read_token` with its state (`' '`, `'a'`, a quote, or the
escape character and the state to return to), the token read so far and its
`quoted` flag, over the characters left; a token is emitted when it is not
empty or a quote was opened in it.

The result: on a command with no quote and no backslash, `shlex.split` returns
the maximal runs of non-whitespace characters, in order, as `str.split()`
does for this whitespace.
-/

namespace TerrierScript
namespace Testing

/-- `shlex`'s `whitespace`. -/
def isShlexSpace (c : Char) : Bool := c = ' ' || c = '\t' || c = '\r' || c = '\n'

/-- `shlex`'s `quotes`. -/
def isShlexQuote (c : Char) : Bool := c = '\'' || c = '"'

/-- The states of `read_token`: between tokens (`' '`), in a word (`'a'`), in
a quote, or after a backslash that returns to a word or a double quote. -/
inductive LexState
  | space
  | word
  | quote (q : Char)
  | escape (inDouble : Bool)
  deriving DecidableEq, Repr

/-- The token `read_token` returns at the end of the input: none when it is
empty and no quote was opened in it. -/
def finalTokens (token : List Char) (quoted : Bool) : List String :=
  if token.isEmpty && !quoted then [] else [String.mk token]

/-- `list(shlex)` from a state, the token read so far, its `quoted` flag and
the characters left. -/
def shlexFrom : LexState → List Char → Bool → List Char → Except String (List String)
  | .space, token, quoted, [] => .ok (finalTokens token quoted)
  | .space, token, quoted, c :: cs =>
      if isShlexSpace c then
        if token.isEmpty && !quoted then shlexFrom .space token quoted cs
        else (String.mk token :: ·) <$> shlexFrom .space [] false cs
      else if c = '\\' then shlexFrom (.escape false) token quoted cs
      else if isShlexQuote c then shlexFrom (.quote c) token quoted cs
      else shlexFrom .word [c] quoted cs
  | .word, token, quoted, [] => .ok (finalTokens token quoted)
  | .word, token, quoted, c :: cs =>
      if isShlexSpace c then
        if token.isEmpty && !quoted then shlexFrom .space token quoted cs
        else (String.mk token :: ·) <$> shlexFrom .space [] false cs
      else if isShlexQuote c then shlexFrom (.quote c) token quoted cs
      else if c = '\\' then shlexFrom (.escape false) token quoted cs
      else shlexFrom .word (token ++ [c]) quoted cs
  | .quote _, _, _, [] => .error "ValueError: No closing quotation"
  | .quote q, token, _, c :: cs =>
      if c = q then shlexFrom .word token true cs
      else if q = '"' && c = '\\' then shlexFrom (.escape true) token true cs
      else shlexFrom (.quote q) (token ++ [c]) true cs
  | .escape _, _, _, [] => .error "ValueError: No escaped character"
  | .escape inDouble, token, quoted, c :: cs =>
      if inDouble then
        shlexFrom (.quote '"')
          ((if c ≠ '\\' ∧ c ≠ '"' then token ++ ['\\'] else token) ++ [c]) quoted cs
      else shlexFrom .word (token ++ [c]) quoted cs

/-- `shlex.split(s)`. -/
def shlexSplit (s : String) : Except String (List String) := shlexFrom .space [] false s.toList

/-- A character `shlex` reads as part of a word in every state but a quote. -/
def isWordChar (c : Char) : Bool := !isShlexSpace c && !isShlexQuote c && c ≠ '\\'

/-- `str.split()` over `shlex`'s whitespace, from a word read so far: the
maximal runs of non-whitespace characters. -/
def splitWords (l : List Char) : List String :=
  ((l.splitOnP isShlexSpace).filter (· ≠ [])).map String.mk

/-! ## Words without quotes or backslashes -/

theorem not_isShlexSpace_of_isWordChar {c : Char} (h : isWordChar c) : ¬isShlexSpace c := by
  simp only [isWordChar, Bool.and_eq_true, Bool.not_eq_true'] at h
  simp [h.1.1]

/-- The loop from a word read so far, over characters with no quote and no
backslash. -/
theorem shlexFrom_of_forall (l : List Char)
    (hl : ∀ c ∈ l, isShlexQuote c = false ∧ c ≠ '\\') :
    ∀ token, (∀ c ∈ token, isWordChar c) →
      shlexFrom (if token.isEmpty then .space else .word) token false l =
        .ok (splitWords (token ++ l)) := by
  induction l with
  | nil =>
      intro token htoken
      have hsplit : token.splitOnP isShlexSpace = [token] :=
        List.splitOnP_eq_single isShlexSpace token fun c hc =>
          not_isShlexSpace_of_isWordChar (htoken c hc)
      cases token <;> simp [shlexFrom, finalTokens, splitWords, hsplit]
  | cons c cs ih =>
      intro token htoken
      obtain ⟨hq, hb⟩ := hl c (.head _)
      have ih' := ih fun c hc => hl c (.tail _ hc)
      by_cases hsp : isShlexSpace c
      · have hsplit : (token ++ c :: cs).splitOnP isShlexSpace =
            token :: cs.splitOnP isShlexSpace :=
          List.splitOnP_first isShlexSpace token
            (fun c hc => not_isShlexSpace_of_isWordChar (htoken c hc)) c hsp cs
        have hrest := ih' [] (by simp)
        simp only [List.isEmpty_nil, if_true, List.nil_append] at hrest
        cases token with
        | nil => simpa [shlexFrom, hsp, splitWords, hsplit] using hrest
        | cons t ts =>
            rw [splitWords, hsplit]
            simp [shlexFrom, hsp, hrest, splitWords]
      · have hw : isWordChar c := by simp [isWordChar, hsp, hq, hb]
        have htoken' : ∀ d ∈ token ++ [c], isWordChar d := fun d hd => by
          rcases List.mem_append.mp hd with hd | hd
          exacts [htoken d hd, List.mem_singleton.mp hd ▸ hw]
        have hne : (token ++ [c]).isEmpty = false := by cases token <;> rfl
        have hstep := ih' (token ++ [c]) htoken'
        simp only [hne, Bool.false_eq_true, if_false, List.append_assoc,
          List.singleton_append] at hstep
        cases token with
        | nil => simpa [shlexFrom, hsp, hq, hb] using hstep
        | cons t ts => simpa [shlexFrom, hsp, hq, hb] using hstep

/-- On a command with no quote and no backslash, `shlex.split` raises nothing
and returns the maximal runs of non-whitespace characters, in order. -/
theorem shlexSplit_eq_splitWords (s : String)
    (hs : ∀ c ∈ s.toList, isShlexQuote c = false ∧ c ≠ '\\') :
    shlexSplit s = .ok (splitWords s.toList) := by
  simpa using shlexFrom_of_forall s.toList hs [] (by simp)

theorem shlexSplit_eq_splitWords_kill :
    (∀ c ∈ "kill -9 456".toList, isShlexQuote c = false ∧ c ≠ '\\') ∧
      shlexSplit "kill -9 456" = .ok (splitWords "kill -9 456".toList) :=
  ⟨by decide, shlexSplit_eq_splitWords "kill -9 456" (by decide)⟩

end Testing
end TerrierScript
