import Criteria.Catalog.Types
import Criteria.Number.Reading

/-!
# Sample Candidates

Three small collections of entities of the sample schema.

## Main definitions

* `Catalog.people`: Four people.
* `Catalog.shifts`: Four shifts.
* `Catalog.gadgets`: Three gadgets.
-/

namespace Criteria

namespace Catalog

/-- A day that is there. -/
def dateAt (year month day : Nat) : Date :=
  (Date.of? year month day).getD .first

/-- A time of day. -/
def clockAt (hour minute second micro : Nat) : TimeOfDay :=
  .ofMicros (((hour * 60 + minute) * 60 + second) * secondMicros + micro)

/-- A decimal with two places. -/
def cents (n : Nat) : Value :=
  .decimal (.finite false n (-2))

/-- A whole decimal. -/
def whole (n : Nat) : Value :=
  .decimal (.ofInt n)

/-- Several texts. -/
def texts (xs : List String) : Value :=
  .list (xs.map .text)

/-- Several whole numbers. -/
def ints (xs : List Int) : Value :=
  .list (xs.map .int)

/-- An address with or without a postal code. -/
def addressAt (street city : String) (zip : Option String) : Value :=
  address.build
    [("street", .text street), ("city", .text city), ("zip_code", zip.elim .null .text)]

/-- A member of a person's status. -/
def status (name : String) : Value := memberOf employmentStatus name

/-- A member of a person's priority. -/
def rank (name : String) : Value := memberOf priority name

/-- The first person. -/
def alice : Value :=
  person.build
    [("id", .int 1), ("first_name", .text "Alice"), ("last_name", .text "Smith"), ("age", .int 30),
      ("email", .text "alice@example.com"), ("status", status "ACTIVE"), ("priority", rank "HIGH"),
      ("birth_date", .date (dateAt 1994 3 10)),
      ("created_at", .moment ⟨dateAt 2024 6 10, clockAt 9 0 0 0, some .utc⟩),
      ("work_start_time", .clock ⟨clockAt 8 30 0 0, none⟩), ("salary", whole 5000),
      ("tags", texts ["admin", "dev"]), ("scores", ints [90, 85]),
      ("addresses", .list [addressAt "Unter den Linden 1" "Berlin" (some "10117"),
        addressAt "Rue de Rivoli 5" "Paris" none])]

/-- The second person. -/
def bob : Value :=
  person.build
    [("id", .int 2), ("first_name", .text "Bob"), ("last_name", .text "Jones"), ("age", .int 42),
      ("status", status "ON_LEAVE"), ("priority", rank "MEDIUM"),
      ("birth_date", .date (dateAt 1982 1 31)),
      ("created_at", .moment ⟨dateAt 2024 1 31, clockAt 23 30 0 0, some .utc⟩),
      ("work_start_time", .clock ⟨clockAt 22 0 0 0, none⟩), ("salary", cents 420050),
      ("tags", texts ["dev"]), ("scores", ints [40, 55]),
      ("addresses", .list [addressAt "Baker Street 221b" "London" none])]

/-- The third person, whom the first one manages. -/
def anna : Value :=
  person.build
    [("id", .int 3), ("first_name", .text "Anna"), ("last_name", .text "Brown"), ("age", .int 25),
      ("email", .text "anna@example.org"), ("status", status "TERMINATED"),
      ("priority", rank "LOW"), ("birth_date", .date (dateAt 1999 2 1)), ("manager", alice)]

/-- The fourth person, whom the second one manages. -/
def zoe : Value :=
  person.build
    [("id", .int 4), ("first_name", .text "Zo\u00eb"), ("last_name", .text "Stra\u00dfe"),
      ("age", .int 30), ("email", .text ""), ("status", status "ON_LEAVE"),
      ("priority", rank "HIGH"), ("birth_date", .date (dateAt 2000 2 29)),
      ("created_at", .moment ⟨dateAt 2024 6 15, clockAt 12 0 0 0, none⟩),
      ("work_start_time", .clock ⟨clockAt 0 0 0 0, none⟩), ("salary", whole 0),
      ("tags", texts ["ADMIN", ""]), ("scores", ints [0, -5]),
      ("addresses", .list [addressAt "" "Z\u00fcrich" (some "")]), ("manager", bob)]

/-- Four people. -/
def people : List Value := [alice, bob, anna, zoe]

/-- A shift of a number of microseconds. -/
def shiftOf (name : String) (start : Moment) (micros : Int) (ends : Option TimeOfDay) : Value :=
  shift.build
    [("name", .text name), ("starts_at", .moment start), ("duration", .duration ⟨micros⟩),
      ("ends", ends.elim .null fun t => .clock ⟨t, none⟩)]

/-- Four shifts. -/
def shifts : List Value :=
  [shiftOf "late" ⟨dateAt 2020 1 31, clockAt 18 0 0 0, none⟩ (2 * 3600 * secondMicros) none,
    shiftOf "night" ⟨dateAt 2020 2 1, clockAt 0 0 0 0, none⟩ (8 * 3600 * secondMicros)
      (some (clockAt 8 0 0 0)),
    shiftOf "long" ⟨dateAt 2020 1 31, clockAt 23 59 59 999999, none⟩
      (26 * 3600 * secondMicros + 30 * secondMicros) (some (clockAt 23 59 59 0)),
    shiftOf "debt" ⟨dateAt 2020 1 1, clockAt 0 0 0 0, none⟩ (-1500000)
      (some (clockAt 12 0 0 1))]

/-- The identifier with a number, which has at most 128 bits. -/
def uuidOf (n : Nat) : Value :=
  .uuid ((Uuid.of? n).getD .nil)

/-- The first gadget. -/
def firstGadget : Value :=
  gadget.build
    [("id", uuidOf 0x12345678123456781234567812345678),
      ("ratio", .float (Binary64.ofRatio false 1 2)), ("active", .bool true), ("count", .int 3),
      ("mixed", memberOf mixed "WORD"), ("price", cents 990),
      ("states", .list [status "ACTIVE", status "ON_LEAVE"]), ("levels", .set false [rank "LOW"]),
      ("dims", .tuple [.int 1, .int 2, .int 3]), ("pair", .tuple [.int 4, .text "x"]),
      ("labels", .set true [.text "new"]), ("weights", .list [cents 150, whole 2]),
      ("bare", .list [Value.table [("name", .text "n1"), ("n", .int 1)], .null]),
      ("notes", texts ["hi"]), ("meta", Value.table [("k", .int 1)]),
      ("anything", Value.table [("deep", Value.table [("er", .text "v")])]),
      ("choice", .text "c"), ("opt_choice", .int 5),
      ("sku", .entity "Sku" .wrapper [("code", .text "AB-1")] []),
      ("home", addressAt "S" "C" (some "Z"))]

/-- The second gadget, which is made of the first one twice. -/
def secondGadget : Value :=
  gadget.build
    [("id", uuidOf 0), ("ratio", .float (Binary64.ofScientific true 1 300)),
      ("active", .bool false), ("count", .int (-2)), ("maybe", .bool true),
      ("color", memberOf color "BLUE"), ("code", memberOf code "HALF"),
      ("mixed", memberOf mixed "FLAG"), ("price", .decimal (.finite true 0 (-2))),
      ("made_on", .date (dateAt 1 1 1)),
      ("stamp", .moment ⟨dateAt 9999 12 31, clockAt 23 59 59 0, none⟩),
      ("opens", .clock ⟨clockAt 23 59 59 0, none⟩), ("lasts", .duration ⟨-dayMicros⟩),
      ("parent", firstGadget), ("parts", .list [firstGadget, firstGadget])]

/-- The third gadget, which is made of the second one. -/
def thirdGadget : Value :=
  gadget.build
    [("id", uuidOf 1), ("ratio", .float (.infinite false)), ("active", .bool true),
      ("count", .int (Nat.pow 10 20)), ("maybe", .bool false), ("color", memberOf color "GREEN"),
      ("code", memberOf code "ONE"), ("mixed", memberOf mixed "NUM"),
      ("lasts", .duration ⟨25 * 3600 * secondMicros + 5⟩), ("notes", .list []),
      ("anything", ints [1, 2]), ("parent", secondGadget), ("parts", .list [secondGadget])]

/-- Three gadgets. -/
def gadgets : List Value := [firstGadget, secondGadget, thirdGadget]

/-- The sample candidates with a name. -/
def candidates? : String → Option (List Value)
  | "people" => some people
  | "shifts" => some shifts
  | "gadgets" => some gadgets
  | _ => none

end Catalog

end Criteria
