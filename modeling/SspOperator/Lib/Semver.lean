import Mathlib.Data.Nat.Digits.Defs
import Mathlib.Data.String.Basic

/-
  Semantic versions as the Go package `github.com/blang/semver/v4` parses and compares
  them.

  `Parse` reads `major.minor.patch`, then an optional pre-release after `-` and optional
  build metadata after `+`. The three numbers are decimal, without leading zeroes, and fit in
  64 bits. `ParseTolerant` first trims white space and a leading `v`, drops leading zeroes of
  the three parts, and fills a missing minor or patch number with `0`. `Compare` orders
  versions by their numbers, then puts a version without a pre-release above one with a
  pre-release, and otherwise compares the pre-release identifiers in order: numeric ones
  below alphanumeric ones, numbers by value and strings lexicographically.

  Strings are processed as lists of characters. Go processes bytes, which is the same on
  the ASCII text a version consists of.
-/

namespace Semver

/-- `PRVersion`: a numeric or an alphanumeric pre-release identifier. -/
inductive PRVersion
  | num (n : Nat)
  | alpha (s : String)
deriving DecidableEq

/-- `semver.Version`. -/
structure Version where
  major : Nat
  minor : Nat
  patch : Nat
  pre : List PRVersion := []
  build : List String := []
deriving DecidableEq

/-! ## Parsing -/

def numbers : List Char := "0123456789".toList

def alphanum : List Char :=
  "abcdefghijklmnopqrstuvwxyzABCDEFGHIJKLMNOPQRSTUVWXYZ-0123456789".toList

/-- `containsOnly`: every character is one of `set` (true of the empty string). -/
def containsOnly (s set : List Char) : Bool :=
  s.all (· ∈ set)

/-- `hasLeadingZeroes`. -/
def hasLeadingZeroes (s : List Char) : Bool :=
  1 < s.length && s.head? = some '0'

/-- `%q` of a string, for strings without characters to escape. -/
def quote (s : List Char) : String :=
  "\"" ++ String.ofList s ++ "\""

/-- `strconv.ParseUint(s, 10, 64)` of a string of digits. -/
def ParseUint (s : List Char) : Except String Nat :=
  if s = [] then .error "strconv.ParseUint: parsing \"\": invalid syntax"
  else
    let n := Nat.ofDigits 10 (s.reverse.map fun c => c.toNat - '0'.toNat)
    if n < 2 ^ 64 then .ok n
    else .error ("strconv.ParseUint: parsing " ++ quote s ++ ": value out of range")

/-- `strings.SplitN(s, ".", 3)`: at most three parts, the last one unsplit. -/
def splitN3 (s : List Char) : List (List Char) :=
  match s.splitOn '.' with
  | first :: second :: third :: rest => [first, second, ['.'].intercalate (third :: rest)]
  | parts => parts

/-- `strings.Split(s, ".")`. -/
def splitDots (s : List Char) : List (List Char) :=
  s.splitOn '.'

/-- `NewPRVersion`. -/
def NewPRVersion (s : List Char) : Except String PRVersion :=
  if s = [] then .error "Prerelease is empty"
  else if containsOnly s numbers then
    if hasLeadingZeroes s then
      .error ("Numeric PreRelease version must not contain leading zeroes " ++ quote s)
    else (ParseUint s).map .num
  else if containsOnly s alphanum then .ok (.alpha (String.ofList s))
  else .error ("Invalid character(s) found in prerelease " ++ quote s)

/-- The checks of one of the three numbers of `Parse`. -/
def parseNumber (what : String) (s : List Char) : Except String Nat := do
  if !containsOnly s numbers then
    throw ("Invalid character(s) found in " ++ what ++ " number " ++ quote s)
  if hasLeadingZeroes s then
    throw (what.capitalize ++ " number must not contain leading zeroes " ++ quote s)
  ParseUint s

/-- The string before and the parts after the first `c`, split at dots. -/
def cutAt (c : Char) (s : List Char) : List Char × Option (List (List Char)) :=
  match s.idxOf? c with
  | some i => (s.take i, some (splitDots (s.drop (i + 1))))
  | none => (s, none)

/-- One identifier of the build metadata. -/
def checkBuild (str : List Char) : Except String String :=
  if str = [] then .error "Build meta data is empty"
  else if !containsOnly str alphanum then
    .error ("Invalid character(s) found in build meta data " ++ quote str)
  else .ok (String.ofList str)

/-- `semver.Parse`. -/
def Parse (s : List Char) : Except String Version := do
  if s = [] then throw "Version string empty"
  let [majorStr, minorStr, patchRest] := splitN3 s
    | throw "No Major.Minor.Patch elements found"
  let major ← parseNumber "major" majorStr
  let minor ← parseNumber "minor" minorStr
  let (patchStr, build) := cutAt '+' patchRest
  let (patchStr, prerelease) := cutAt '-' patchStr
  let patch ← parseNumber "patch" patchStr
  let pre ← (prerelease.getD []).mapM NewPRVersion
  let build ← (build.getD []).mapM checkBuild
  pure { major := major, minor := minor, patch := patch, pre := pre, build := build }

/-- `unicode.IsSpace`. -/
def isSpace (c : Char) : Bool :=
  c ∈ ['\t', '\n', '\x0b', '\x0c', '\r', ' ', '\x85', '\xa0'] ||
    c.toNat = 0x1680 || (0x2000 ≤ c.toNat && c.toNat ≤ 0x200a) ||
    c.toNat ∈ [0x2028, 0x2029, 0x202f, 0x205f, 0x3000]

/-- `strings.TrimSpace`. -/
def TrimSpace (s : List Char) : List Char :=
  ((s.dropWhile isSpace).reverse.dropWhile isSpace).reverse

/-- The leading zeroes `ParseTolerant` removes from a part longer than one character; a part
    left empty or not starting with a digit gets one zero back. -/
def removeLeadingZeroes (p : List Char) : List Char :=
  if 1 < p.length then
    let p := p.dropWhile (· = '0')
    match p with
    | c :: _ => if c ∈ numbers then p else '0' :: p
    | [] => ['0']
  else p

/-- `semver.ParseTolerant`. -/
def ParseTolerant (s : String) : Except String Version := do
  let s := TrimSpace s.toList
  let s := match s with
    | 'v' :: rest => rest
    | _ => s
  let parts := (splitN3 s).map removeLeadingZeroes
  if parts.length < 3 then
    if (parts.getLast?.getD []).any (· ∈ ['+', '-']) then
      throw "Short version cannot contain PreRelease/Build meta data"
  let parts := parts ++ List.replicate (3 - parts.length) ['0']
  Parse (['.'].intercalate parts)

/-! ## Comparing -/

/-- `PRVersion.Compare`. -/
def PRVersion.Compare : PRVersion → PRVersion → Int
  | .num _, .alpha _ => -1
  | .alpha _, .num _ => 1
  | .num a, .num b => if a = b then 0 else if a > b then 1 else -1
  | .alpha a, .alpha b => if a = b then 0 else if a > b then 1 else -1

/-- The loop of `Version.Compare` over the pre-release identifiers, with the rule for a list
    that runs out first. -/
def comparePre : List PRVersion → List PRVersion → Int
  | [], [] => 0
  | [], _ :: _ => -1
  | _ :: _, [] => 1
  | a :: as, b :: bs =>
      let comp := a.Compare b
      if comp = 0 then comparePre as bs else if comp = 1 then 1 else -1

/-- `Version.Compare`: `1` when `v` is greater than `o`, `-1` when it is less, `0` when they
    are equal. -/
def Version.Compare (v o : Version) : Int :=
  if v.major ≠ o.major then (if v.major > o.major then 1 else -1)
  else if v.minor ≠ o.minor then (if v.minor > o.minor then 1 else -1)
  else if v.patch ≠ o.patch then (if v.patch > o.patch then 1 else -1)
  else if v.pre = [] ∧ o.pre = [] then 0
  else if v.pre = [] then 1
  else if o.pre = [] then -1
  else comparePre v.pre o.pre

/-- `Version.GT`. -/
def Version.GT (v o : Version) : Bool :=
  v.Compare o = 1

/-! ## Antisymmetry

`Compare` changes sign when its arguments are swapped, so `v.Compare o = 1` says exactly that
`o` is lower than `v`. -/

/-- A three-way comparison of a linear order changes sign with its arguments. -/
theorem threeWay_swap {α : Type} [LinearOrder α] (a b : α) :
    (if b = a then 0 else if b > a then 1 else -1 : Int) =
      -(if a = b then 0 else if a > b then 1 else -1) := by
  rcases lt_trichotomy a b with h | rfl | h
  · simp [h, h.ne, h.ne', h.not_gt]
  · simp
  · simp [h, h.ne, h.ne', h.not_gt]

theorem threeWay_cases {α : Type} [LinearOrder α] (a b : α) :
    let c : Int := if a = b then 0 else if a > b then 1 else -1
    c = -1 ∨ c = 0 ∨ c = 1 := by
  split_ifs <;> simp

theorem PRVersion.Compare_swap (a b : PRVersion) : b.Compare a = -a.Compare b := by
  cases a with
  | num a =>
      cases b with
      | num b => exact threeWay_swap a b
      | alpha b => rfl
  | alpha a =>
      cases b with
      | num b => rfl
      | alpha b => exact threeWay_swap a b

theorem PRVersion.Compare_cases (a b : PRVersion) :
    a.Compare b = -1 ∨ a.Compare b = 0 ∨ a.Compare b = 1 := by
  cases a with
  | num a =>
      cases b with
      | num b => exact threeWay_cases a b
      | alpha b => simp [PRVersion.Compare]
  | alpha a =>
      cases b with
      | num b => simp [PRVersion.Compare]
      | alpha b => exact threeWay_cases a b

theorem comparePre_swap : ∀ as bs : List PRVersion, comparePre bs as = -comparePre as bs
  | [], [] => rfl
  | [], _ :: _ => rfl
  | _ :: _, [] => rfl
  | a :: as, b :: bs => by
      simp only [comparePre, PRVersion.Compare_swap a b, comparePre_swap as bs]
      rcases PRVersion.Compare_cases a b with h | h | h <;> simp [h]

theorem Version.Compare_swap (v o : Version) : o.Compare v = -v.Compare o := by
  unfold Version.Compare
  by_cases hmajor : v.major = o.major
  · by_cases hminor : v.minor = o.minor
    · by_cases hpatch : v.patch = o.patch
      · simp only [hmajor, hminor, hpatch, ne_eq, not_true_eq_false, if_false]
        rw [comparePre_swap v.pre o.pre]
        by_cases hv : v.pre = [] <;> by_cases ho : o.pre = [] <;> simp [hv, ho]
      · simpa [hmajor, hminor, hpatch, Ne.symm hpatch] using threeWay_swap v.patch o.patch
    · simpa [hmajor, hminor, Ne.symm hminor] using threeWay_swap v.minor o.minor
  · simpa [hmajor, Ne.symm hmajor] using threeWay_swap v.major o.major

end Semver
