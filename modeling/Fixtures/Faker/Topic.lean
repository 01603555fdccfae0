import Fixtures.Schema.Basic

namespace Fixtures.Faker

inductive Locale
  | enUs
  | ptBr
  deriving DecidableEq, Repr

namespace Locale

def name : Locale → String
  | enUs => "en_us"
  | ptBr => "pt_br"

/-- Names are compared without case and outer blanks, and a hyphen counts as an underscore. The
language alone stands for English. -/
def ofName? (text : String) : Option Locale :=
  let text := Text.lowerAscii (Text.trimmed text)
  match String.ofList (text.toList.map fun c => if c = '-' then '_' else c) with
  | "en_us" | "en" => some enUs
  | "pt_br" => some ptBr
  | _ => none

end Locale

inductive Topic
  | email
  | firstName
  | lastName
  | username
  | phone
  | city
  | street
  | country
  | postalCode
  | company
  | jobTitle
  | fullName
  | word
  deriving DecidableEq, Repr

namespace Topic

def name : Topic → String
  | email => "email"
  | firstName => "first_name"
  | lastName => "last_name"
  | fullName => "full_name"
  | username => "username"
  | phone => "phone"
  | city => "city"
  | street => "street"
  | country => "country"
  | postalCode => "postal_code"
  | company => "company"
  | jobTitle => "job_title"
  | word => "word"

/-- Parts of field names that tell a topic. The first topic with a part in the name counts. -/
def hints : List (Topic × List String) :=
  [(email, ["email"]),
    (firstName, ["first_name", "firstname", "given_name"]),
    (lastName, ["last_name", "lastname", "surname"]),
    (username, ["username", "login", "handle"]),
    (phone, ["phone", "mobile"]),
    (city, ["city"]),
    (street, ["street", "address"]),
    (country, ["country"]),
    (postalCode, ["zip", "postal", "cep"]),
    (company, ["company", "employer", "organization"]),
    (jobTitle, ["job", "title", "position"]),
    (fullName, ["name"])]

def ofField (field : String) : Topic :=
  let field := Text.lowerAscii field
  match hints.find? fun h => h.2.any (Text.contains field) with
  | some h => h.1
  | none => word

end Topic

end Fixtures.Faker
