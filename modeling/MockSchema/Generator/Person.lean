import MockSchema.Random.Gen

/-!
# Names and contacts of persons
-/

namespace MockSchema.Person

def firstNames : List String := [
  "James", "Mary", "Robert", "Patricia", "John", "Jennifer", "Michael", "Linda", "David",
  "Elizabeth", "William", "Barbara", "Richard", "Susan", "Joseph", "Jessica", "Thomas", "Sarah",
  "Charles", "Karen", "Christopher", "Lisa", "Daniel", "Nancy", "Matthew", "Betty", "Anthony",
  "Margaret", "Mark", "Sandra", "Donald", "Ashley", "Steven", "Kimberly", "Paul", "Emily",
  "Andrew", "Donna", "Joshua", "Michelle", "Kenneth", "Carol", "Kevin", "Amanda", "Brian",
  "Melissa", "George", "Deborah", "Timothy", "Stephanie"]

def lastNames : List String := [
  "Smith", "Johnson", "Williams", "Brown", "Jones", "Garcia", "Miller", "Davis", "Rodriguez",
  "Martinez", "Hernandez", "Lopez", "Gonzalez", "Wilson", "Anderson", "Thomas", "Taylor",
  "Moore", "Jackson", "Martin", "Lee", "Perez", "Thompson", "White", "Harris", "Sanchez",
  "Clark", "Ramirez", "Lewis", "Robinson", "Walker", "Young", "Allen", "King", "Wright",
  "Scott", "Torres", "Nguyen", "Hill", "Flores", "Green", "Adams", "Nelson", "Baker", "Hall",
  "Rivera", "Campbell", "Mitchell", "Carter", "Roberts"]

/-- Domains that belong to nobody. -/
def emailDomains : List String := [
  "example.com", "example.net", "example.org", "mail.test", "inbox.test"]

variable {σ : Type} [RandomSource σ]

def firstName : Gen σ String := Random.pick firstNames

def lastName : Gen σ String := Random.pick lastNames

def fullName : Gen σ String := do
  let first ← firstName
  let last ← lastName
  return first ++ " " ++ last

def email : Gen σ String := do
  let first ← firstName
  let last ← lastName
  let domain ← Random.pick emailDomains
  return first.toLower ++ "." ++ last.toLower ++ "@" ++ domain

/-- The given number of decimal digits. -/
def digits (count : Nat) : Gen σ (List Char) :=
  Gen.times (do return Nat.digitChar (← Random.below32 10)) count

/-- Three, three and four digits. -/
def phoneNumber : Gen σ String := do
  let area ← digits 3
  let exchange ← digits 3
  let line ← digits 4
  return String.ofList (area ++ '-' :: exchange ++ '-' :: line)

end MockSchema.Person
