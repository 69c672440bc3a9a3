import ShapeCheck.Path
import ShapeCheck.Shape.Display

/-!
# Failures

A failure says where a value was found, what was expected there and why the value was refused. It is
made where the mismatch is found and lifted on the way out: whatever holds the value puts the
segment that led to it in front of the path. The path of a cause is relative to the place of the
failure it belongs to, so that lifting changes the outermost path only.
-/

namespace ShapeCheck

/-- Why a single check refused a value. -/
inductive Reason where
  | neverOccurs
  | notEqual (l : Literal)
  | notTagged (tag : Tag)
  | notInstance (cls : Class)
  | guardFailed (name : String)
  | notArray
  | notMap
  | notSet
  | isNull
  | isArray
  | notObject
  | missingKey (name : String)
  | unknownKey (name : String)
  | failedValidation (description : String)
  | validationRaised (description : String) (messages : List String)
  /-- A reason in the caller's own words. -/
  | stated (message : String)

def Reason.message : Reason → String
  | neverOccurs => "never values cannot occur"
  | notEqual l => "not equal to " ++ l.text
  | notTagged tag => "not a " ++ tag.name
  | notInstance cls => "not an instance of " ++ cls.name
  | guardFailed name => "not a " ++ name ++ " (guard failed)"
  | notArray => "not an array"
  | notMap => "not a Map"
  | notSet => "not a Set"
  | isNull => "is null"
  | isArray => "is an array"
  | notObject => "not an object"
  | missingKey name => "missing key `" ++ name ++ "`"
  | unknownKey name => "unknown key `" ++ name ++ "` should not exist"
  | failedValidation description => "failed validation: " ++ description
  | validationRaised description messages =>
    "validation `" ++ description ++ "` raised an error: " ++ ": ".intercalate messages
  | stated message => message

/-- The place of a failure: the path to the value, the value, and the shape it should have had. -/
structure Site where
  path : Path
  value : Value
  expected : Shape

/-- The site of a value that no path leads to yet. -/
def Site.here (value : Value) (expected : Shape) : Site := ⟨[], value, expected⟩

inductive Failure where
  /-- One check refused the value. -/
  | leaf (site : Site) (reason : Reason)
  /-- Several checks refused the value at once. -/
  | several (site : Site) (causes : List Failure)
  /-- Every branch of a union refused the value, each with one cause. -/
  | noBranch (site : Site) (causes : List Failure)
  /-- A failure deep inside, told from the outermost value. -/
  | rerooted (site : Site) (cause : Failure)

namespace Failure

def site : Failure → Site
  | leaf site _ => site
  | several site _ => site
  | noBranch site _ => site
  | rerooted site _ => site

def causes : Failure → List Failure
  | leaf _ _ => []
  | several _ causes => causes
  | noBranch _ causes => causes
  | rerooted _ cause => [cause]

def path (f : Failure) : Path := f.site.path
def value (f : Failure) : Value := f.site.value
def expected (f : Failure) : Shape := f.site.expected

/-- The same failure at another site. -/
def atSite (site : Site) : Failure → Failure
  | leaf _ reason => leaf site reason
  | several _ causes => several site causes
  | noBranch _ causes => noBranch site causes
  | rerooted _ cause => rerooted site cause

/-- The same failure with another path. -/
def withPath (path : Path) (f : Failure) : Failure := f.atSite { f.site with path := path }

/-- Puts a path in front. -/
def liftPath (path : Path) (f : Failure) : Failure := f.withPath (path ++ f.path)

/-- Puts one segment in front. -/
def lift (segment : Segment) (f : Failure) : Failure := f.liftPath [segment]

/-- Failures of one value as one failure. A single failure needs no other around it. -/
def combine (site : Site) : List Failure → Failure
  | [only] => only
  | failures => several site failures

mutual

/-- The failures without causes, with paths that begin at `base`. -/
def leavesFrom (base : Path) : Failure → List Failure
  | leaf site reason => [leaf { site with path := base ++ site.path } reason]
  | several site [] => [several { site with path := base ++ site.path } []]
  | several site (cause :: causes) => leavesOfAll (base ++ site.path) (cause :: causes)
  | noBranch site [] => [noBranch { site with path := base ++ site.path } []]
  | noBranch site (cause :: causes) => leavesOfAll (base ++ site.path) (cause :: causes)
  | rerooted site cause => leavesFrom (base ++ site.path) cause
termination_by structural f => f

def leavesOfAll (base : Path) : List Failure → List Failure
  | [] => []
  | cause :: causes => leavesFrom base cause ++ leavesOfAll base causes
termination_by structural causes => causes

end

/-- The failures without causes, with paths from the outermost value. -/
def leaves (f : Failure) : List Failure := leavesFrom [] f

@[simp] theorem site_atSite (site : Site) (f : Failure) : (f.atSite site).site = site := by
  cases f <;> rfl

@[simp] theorem causes_atSite (site : Site) (f : Failure) : (f.atSite site).causes = f.causes := by
  cases f <;> rfl

@[simp] theorem path_liftPath (path : Path) (f : Failure) :
    (f.liftPath path).path = path ++ f.path := by
  simp [liftPath, withPath, Failure.path]

@[simp] theorem causes_liftPath (path : Path) (f : Failure) :
    (f.liftPath path).causes = f.causes := by
  simp [liftPath, withPath]

@[simp] theorem liftPath_nil (f : Failure) : f.liftPath [] = f := by
  cases f <;> rfl

theorem liftPath_append (p q : Path) (f : Failure) :
    f.liftPath (p ++ q) = (f.liftPath q).liftPath p := by
  cases f <;> simp [liftPath, withPath, atSite, path, site]

theorem liftPath_cons (segment : Segment) (path : Path) (f : Failure) :
    f.liftPath (segment :: path) = (f.liftPath path).lift segment :=
  liftPath_append [segment] path f

@[simp] theorem combine_singleton (site : Site) (f : Failure) : combine site [f] = f := rfl

theorem leavesOfAll_eq_flatMap (base : Path) (fs : List Failure) :
    leavesOfAll base fs = fs.flatMap (leavesFrom base) := by
  induction fs with
  | nil => rfl
  | cons f fs ih => rw [leavesOfAll, ih, List.flatMap_cons]

end Failure

end ShapeCheck
