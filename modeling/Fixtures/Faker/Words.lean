namespace Fixtures.Faker

/-- Phone numbers of the United States. `^` stands for a digit from one to nine, `#` for any
digit. -/
def phoneFormatsEnUs : List String :=
  ["(^##) ###-#### x###", "(^##) ###-#### x####", "(^##) ###-#### x#####", "(^##) ###-####",
    "1-^##-###-#### x###", "1-^##-###-#### x####", "1-^##-###-#### x#####", "1-^##-###-####",
    "^##-###-#### x###", "^##-###-#### x####", "^##-###-#### x#####", "^##-###-####",
    "^##.###.#### x###", "^##.###.#### x####", "^##.###.#### x#####", "^##.###.####"]

def phoneFormatsPtBr : List String :=
  ["(^#) 2###-####", "(^#) 3###-####", "(^#) 4###-####"]

def jobSeniorities : List String :=
  ["Lead", "Senior", "Junior", "Corporate", "National", "Regional", "District", "Central",
    "Global", "International", "Chief", "Principal"]

def jobFields : List String :=
  ["Marketing", "IT", "Accounting", "Administration", "Advertising", "Banking",
    "Community-Services", "Construction", "Consulting", "Design", "Education", "Farming",
    "Government", "Healthcare", "Hospitality", "Legal", "Manufacturing", "Mining", "Real-Estate",
    "Retail", "Sales", "Technology"]

def jobPositions : List String :=
  ["Supervisor", "Associate", "Executive", "Liaison", "Officer", "Manager", "Engineer",
    "Specialist", "Director", "Coordinator", "Administrator", "Architect", "Analyst", "Designer",
    "Planner", "Orchestrator", "Technician", "Developer", "Producer", "Consultant", "Assistant",
    "Facilitator", "Agent", "Representative", "Strategist"]

/-- Words of the usual filler text. Words that occur more often there are listed more often. -/
def words : List String :=
  ["alias", "consequatur", "aut", "perferendis", "sit", "voluptatem", "accusantium", "doloremque",
    "aperiam", "eaque", "ipsa", "quae", "ab", "illo", "inventore", "veritatis", "et", "quasi",
    "architecto", "beatae", "vitae", "dicta", "sunt", "explicabo", "aspernatur", "aut", "odit",
    "aut", "fugit", "sed", "quia", "consequuntur", "magni", "dolores", "eos", "qui", "ratione",
    "voluptatem", "sequi", "nesciunt", "neque", "dolorem", "ipsum", "quia", "dolor", "sit", "amet",
    "consectetur", "adipisci", "velit", "sed", "quia", "non", "numquam", "eius", "modi", "tempora",
    "incidunt", "ut", "labore", "et", "dolore", "magnam", "aliquam", "quaerat", "voluptatem", "ut",
    "enim", "ad", "minima", "veniam", "quis", "nostrum", "exercitationem", "ullam", "corporis",
    "nemo", "enim", "ipsam", "voluptatem", "quia", "voluptas", "sit", "suscipit", "laboriosam",
    "nisi", "ut", "aliquid", "ex", "ea", "commodi", "consequatur", "quis", "autem", "vel", "eum",
    "iure", "reprehenderit", "qui", "in", "ea", "voluptate", "velit", "esse", "quam", "nihil",
    "molestiae", "et", "iusto", "odio", "dignissimos", "ducimus", "qui", "blanditiis",
    "praesentium", "laudantium", "totam", "rem", "voluptatum", "deleniti", "atque", "corrupti",
    "quos", "dolores", "et", "quas", "molestias", "excepturi", "sint", "occaecati", "cupiditate",
    "non", "provident", "sed", "ut", "perspiciatis", "unde", "omnis", "iste", "natus", "error",
    "similique", "sunt", "in", "culpa", "qui", "officia", "deserunt", "mollitia", "animi", "id",
    "est", "laborum", "et", "dolorum", "fuga", "et", "harum", "quidem", "rerum", "facilis", "est",
    "et", "expedita", "distinctio", "nam", "libero", "tempore", "cum", "soluta", "nobis", "est",
    "eligendi", "optio", "cumque", "nihil", "impedit", "quo", "porro", "quisquam", "est", "qui",
    "minus", "id", "quod", "maxime", "placeat", "facere", "possimus", "omnis", "voluptas",
    "assumenda", "est", "omnis", "dolor", "repellendus", "temporibus", "autem", "quibusdam", "et",
    "aut", "consequatur", "vel", "illum", "qui", "dolorem", "eum", "fugiat", "quo", "voluptas",
    "nulla", "pariatur", "at", "vero", "eos", "et", "accusamus", "officiis", "debitis", "aut",
    "rerum", "necessitatibus", "saepe", "eveniet", "ut", "et", "voluptates", "repudiandae", "sint",
    "et", "molestiae", "non", "recusandae", "itaque", "earum", "rerum", "hic", "tenetur", "a",
    "sapiente", "delectus", "ut", "aut", "reiciendis", "voluptatibus", "maiores", "doloribus",
    "asperiores", "repellat"]

def countries : List String :=
  ["Afghanistan", "Albania", "Algeria", "American Samoa", "Andorra", "Angola", "Anguilla",
    "Antarctica (the territory South of 60 deg S)", "Antigua and Barbuda", "Argentina", "Armenia",
    "Aruba", "Australia", "Austria", "Azerbaijan", "Bahamas", "Bahrain", "Bangladesh", "Barbados",
    "Belarus", "Belgium", "Belize", "Benin", "Bermuda", "Bhutan", "Bolivia",
    "Bosnia and Herzegovina", "Botswana", "Bouvet Island (Bouvetoya)", "Brazil",
    "British Indian Ocean Territory (Chagos Archipelago)", "Brunei Darussalam", "Bulgaria",
    "Burkina Faso", "Burundi", "Cambodia", "Cameroon", "Canada", "Cape Verde", "Cayman Islands",
    "Central African Republic", "Chad", "Chile", "China", "Christmas Island",
    "Cocos (Keeling) Islands", "Colombia", "Comoros", "Congo", "Cook Islands", "Costa Rica",
    "Cote d'Ivoire", "Croatia", "Cuba", "Cyprus", "Czech Republic", "Denmark", "Djibouti",
    "Dominica", "Dominican Republic", "Ecuador", "Egypt", "El Salvador", "Equatorial Guinea",
    "Eritrea", "Estonia", "Ethiopia", "Faroe Islands", "Falkland Islands (Malvinas)", "Fiji",
    "Finland", "France", "French Guiana", "French Polynesia", "French Southern Territories",
    "Gabon", "Gambia", "Georgia", "Germany", "Ghana", "Gibraltar", "Greece", "Greenland",
    "Grenada", "Guadeloupe", "Guam", "Guatemala", "Guernsey", "Guinea", "Guinea-Bissau", "Guyana",
    "Haiti", "Heard Island and McDonald Islands", "Holy See (Vatican City State)", "Honduras",
    "Hong Kong", "Hungary", "Iceland", "India", "Indonesia", "Iran", "Iraq", "Ireland",
    "Isle of Man", "Israel", "Italy", "Jamaica", "Japan", "Jersey", "Jordan", "Kazakhstan",
    "Kenya", "Kiribati", "Democratic People's Republic of Korea", "Republic of Korea", "Kuwait",
    "Kyrgyz Republic", "Lao People's Democratic Republic", "Latvia", "Lebanon", "Lesotho",
    "Liberia", "Libyan Arab Jamahiriya", "Liechtenstein", "Lithuania", "Luxembourg", "Macao",
    "Macedonia", "Madagascar", "Malawi", "Malaysia", "Maldives", "Mali", "Malta",
    "Marshall Islands", "Martinique", "Mauritania", "Mauritius", "Mayotte", "Mexico", "Micronesia",
    "Moldova", "Monaco", "Mongolia", "Montenegro", "Montserrat", "Morocco", "Mozambique",
    "Myanmar", "Namibia", "Nauru", "Nepal", "Netherlands Antilles", "Netherlands", "New Caledonia",
    "New Zealand", "Nicaragua", "Niger", "Nigeria", "Niue", "Norfolk Island",
    "Northern Mariana Islands", "Norway", "Oman", "Pakistan", "Palau", "Palestinian Territory",
    "Panama", "Papua New Guinea", "Paraguay", "Peru", "Philippines", "Pitcairn Islands", "Poland",
    "Portugal", "Puerto Rico", "Qatar", "Reunion", "Romania", "Russian Federation", "Rwanda",
    "Saint Barthelemy", "Saint Helena", "Saint Kitts and Nevis", "Saint Lucia", "Saint Martin",
    "Saint Pierre and Miquelon", "Saint Vincent and the Grenadines", "Samoa", "San Marino",
    "Sao Tome and Principe", "Saudi Arabia", "Senegal", "Serbia", "Seychelles", "Sierra Leone",
    "Singapore", "Slovakia (Slovak Republic)", "Slovenia", "Solomon Islands", "Somalia",
    "South Africa", "South Georgia and the South Sandwich Islands", "Spain", "Sri Lanka", "Sudan",
    "Suriname", "Svalbard & Jan Mayen Islands", "Swaziland", "Sweden", "Switzerland",
    "Syrian Arab Republic", "Taiwan", "Tajikistan", "Tanzania", "Thailand", "Timor-Leste", "Togo",
    "Tokelau", "Tonga", "Trinidad and Tobago", "Tunisia", "Turkey", "Turkmenistan",
    "Turks and Caicos Islands", "Tuvalu", "Uganda", "Ukraine", "United Arab Emirates",
    "United Kingdom", "United States of America", "United States Minor Outlying Islands",
    "Uruguay", "Uzbekistan", "Vanuatu", "Venezuela", "Vietnam", "Virgin Islands, British",
    "Virgin Islands, U.S.", "Wallis and Futuna", "Western Sahara", "Yemen", "Zambia", "Zimbabwe"]

def postalCodeFormats : List String := ["#####", "####", "###"]

end Fixtures.Faker
