import SchemaCatalog.Expr.Basic
import SchemaCatalog.Text.LetterCase

/-!
# Known functions

What is known of a function by its name: the names it may have, how many arguments it takes, and which
of them count in which order. `Function.find?` finds the function that a name denotes, and
`Function.call?` makes a call of it; a call with too few or too many arguments is none.
-/

namespace SchemaCatalog

structure KnownFunction where
  /-- The names it may have, the preferred one first; one that is looked upon as an operator has none. -/
  names : List String
  least : Nat
  /-- The greatest number of arguments, if there is one. -/
  greatest : Option Nat := none
  /-- The number of arguments that count, if the further ones are dropped. -/
  kept : Option Nat := none
  /-- The second argument is visited before the first. -/
  reversed : Bool := false
  /-- The place of an argument that names a unit of time, in the order of the visit. -/
  unit : Option Nat := none
  deriving Repr

namespace KnownFunction

/-! ## 1. Calls -/

/-- The arguments with the second one first. -/
def exchanged : List Expr → List Expr
  | a :: b :: rest => b :: a :: rest
  | arguments => arguments

/-- A bare name or a literal that stands for a unit of time is no operand. -/
def unitOperands : Expr → List Expr
  | .column [] _ => []
  | .literal _ => []
  | e => [e]

/-- The arguments with the one at the given place taken as a unit. -/
def withUnit (place : Nat) (arguments : List Expr) : List Expr :=
  arguments.take place ++ ((arguments.drop place).take 1).flatMap unitOperands
    ++ arguments.drop (place + 1)

/-- The operands of a call in the order of their visit. -/
def operands (f : KnownFunction) (arguments : List Expr) : List Expr :=
  let ordered := if f.reversed then exchanged arguments else arguments
  let kept := (f.kept.map fun n => ordered.take n).getD ordered
  (f.unit.map fun place => withUnit place kept).getD kept

def takes (f : KnownFunction) (count : Nat) : Bool :=
  f.least ≤ count && (f.greatest.map fun greatest => decide (count ≤ greatest)).getD true

def call? (f : KnownFunction) (arguments : List Expr) : Option Expr :=
  if f.takes arguments.length then
    some (if f.names.isEmpty then .compound (f.operands arguments)
      else .call f.names (f.operands arguments))
  else none

/-- A function that takes a number of arguments between two bounds, all of which count. -/
def between (names : List String) (least greatest : Nat) : KnownFunction :=
  ⟨names, least, some greatest, none, false, none⟩

def atLeast (names : List String) (least : Nat) : KnownFunction :=
  ⟨names, least, none, none, false, none⟩

/-- A function whose further arguments are dropped. -/
def keeping (f : KnownFunction) (kept : Nat) : KnownFunction := { f with kept := some kept }

/-- A function whose second argument is visited before the first. -/
def exchanging (f : KnownFunction) : KnownFunction := { f with reversed := true }

def timed (f : KnownFunction) (place : Nat) : KnownFunction := { f with unit := some place }

end KnownFunction

namespace Function

open KnownFunction

/-! ## 2. Functions of a fixed number of arguments -/

/-- The functions of one argument, each by its only name. -/
def unaryNames : List String :=
  ["abs", "acos", "acosh", "any_value", "array_compact", "array_concat_agg", "array_first",
    "array_last", "array_max", "array_min", "array_reverse", "array_union_agg", "array_unique_agg",
    "ascii", "asin", "asinh", "atanh", "avg", "bit_length", "bitmap_bit_position",
    "bitmap_bucket_number", "bitmap_construct_agg", "bitmap_count", "bitmap_or_agg",
    "bitwise_and_agg", "bitwise_count", "bitwise_or_agg", "bitwise_xor_agg", "boolnot",
    "boolxor_agg", "byte_length", "cbrt", "code_points_to_bytes", "code_points_to_string", "cos",
    "cosh", "cot", "coth", "csc", "csch", "date_from_unix_date", "date_str_to_date", "date_to_di",
    "day", "degrees", "di_to_date", "exp", "factorial", "first_value", "flatten", "float64",
    "from_base32", "from_base64", "from_iso8601_timestamp", "hour", "inline", "int64", "is_array",
    "is_ascii", "is_null_value", "justify_days", "justify_hours", "justify_interval", "kurtosis",
    "last_value", "ln", "lower_hex", "map_from_entries", "map_keys", "map_size", "md5", "median",
    "minute", "month", "parse_bignumeric", "parse_numeric", "quarter", "radians", "reverse",
    "rtrimmed_length", "sec", "sech", "second", "sin", "sinh", "skewness", "soundex", "space",
    "sqrt", "stddev_pop", "stddev_samp", "sum", "tan", "tanh", "time_str_to_date",
    "time_str_to_unix", "time_to_unix", "to_array", "to_base32", "to_base64", "to_days", "try",
    "ts_or_di_to_di", "typeof", "unicode", "unix_date", "unix_micros", "unix_millis",
    "unix_seconds", "unix_to_time_str", "year"]

def unarySynonyms : List (List String) :=
  [["lower", "lcase"], ["upper", "ucase"], ["sign", "signum"], ["count_if", "countif"],
    ["is_nan", "isnan"], ["is_inf", "isinf"], ["logical_or", "bool_or", "boolor_agg"],
    ["logical_and", "bool_and", "booland_agg"], ["day_of_week", "dayofweek"],
    ["dayofweek_iso", "isodow"], ["day_of_month", "dayofmonth"], ["day_of_year", "dayofyear"],
    ["week_of_year", "weekofyear"], ["stddev", "stdev"], ["variance", "variance_samp", "var_samp"],
    ["variance_pop", "var_pop"], ["sha", "sha1"], ["year_of_week", "yearofweek"],
    ["year_of_week_iso", "yearofweekiso"]]

def binarySynonyms : List (List String) :=
  [["apply"], ["array_all"], ["array_any"], ["array_contains_all", "array_has_all"],
    ["array_overlaps"], ["array_remove_at"], ["atan2"], ["booland"], ["boolor"], ["collate"],
    ["cosine_distance"], ["covar_pop"], ["covar_samp"], ["dot_product"], ["encode"],
    ["ends_with", "endswith"], ["equal_null"], ["euclidean_distance"], ["filter", "array_filter"],
    ["from_base"], ["jsonb_contains"], ["jsonb_contains_all_top_keys"],
    ["jsonb_contains_any_top_keys"], ["jsonb_delete_at_path"], ["jsonb_extract"],
    ["manhattan_distance"], ["nullif"], ["object_agg"], ["parse_time"], ["power", "pow"],
    ["previous_day"], ["quantile"], ["range_bucket"], ["regr_avgx"], ["regr_avgy"], ["regr_count"],
    ["regr_intercept"], ["regr_r2"], ["regr_slope"], ["regr_sxx"], ["regr_sxy"], ["regr_syy"],
    ["regr_valx"], ["regr_valy"], ["repeat"], ["safe_add"], ["safe_divide"], ["safe_multiply"],
    ["safe_subtract"], ["search_ip"], ["starts_with", "startswith"], ["struct_extract"],
    ["transform"]]

/-! ## 3. Functions of several numbers of arguments -/

/-- The functions between two bounds on the number of their arguments. -/
def boundedFunctions : List KnownFunction :=
  [between ["add_months"] 2 3, between ["approx_distinct", "approx_count_distinct"] 1 2,
    between ["approx_quantile"] 2 5, between ["approx_top_k"] 1 3,
    between ["array_contains", "array_has"] 2 4, between ["array_distinct"] 1 2,
    between ["array_except"] 2 3, between ["array_insert"] 3 4, between ["array_position"] 2 3,
    between ["array_size", "array_length"] 1 2, between ["array_slice"] 2 4,
    between ["array_sort"] 1 2, between ["array_sum"] 1 2,
    between ["array_to_string", "array_join"] 2 3, between ["atan"] 1 2,
    between ["ceil", "ceiling"] 1 3, between ["contains"] 2 3, between ["convert_timezone"] 2 4,
    between ["convert_to_charset"] 2 3, between ["corr"] 2 3, between ["current_catalog"] 0 0,
    between ["current_database"] 0 0, between ["current_date"] 0 1,
    between ["current_datetime"] 0 1, between ["current_schema"] 0 1, between ["current_time"] 0 1,
    between ["current_timestamp"] 0 2, between ["current_user"] 0 1,
    between ["current_version"] 0 0, between ["date_from_parts", "datefromparts"] 1 4,
    between ["datetime"] 1 2, between ["dayname"] 1 2, between ["exists"] 1 2,
    between ["exploding_generate_series"] 2 4, between ["first"] 1 2,
    between ["generate_date_array"] 2 3, between ["generate_timestamp_array"] 3 3,
    between ["getbit", "get_bit"] 2 3, between ["group_concat"] 1 3, between ["if", "iif"] 2 3,
    between ["json_array_contains"] 2 3, between ["json_extract_array"] 1 2,
    between ["json_keys_at_depth"] 1 3, between ["json_strip_nulls"] 1 4, between ["json_type"] 1 2,
    between ["json_value_array"] 1 2, between ["lag"] 1 3, between ["last"] 1 2,
    between ["lead"] 1 3, between ["left"] 2 3,
    between ["length", "len", "char_length", "character_length"] 1 3, between ["levenshtein"] 1 6,
    between ["localtime"] 0 1, between ["localtimestamp"] 0 1, between ["log"] 1 2,
    between ["make_interval"] 0 7, between ["map"] 0 2, between ["mode"] 0 2,
    between ["monthname"] 1 2, between ["months_between"] 2 3, between ["nth_value"] 2 3,
    between ["ntile"] 0 1, between ["number_to_str"] 2 3, between ["nvl2"] 2 3,
    between ["object_insert"] 3 4, between ["pad"] 4 4, between ["parse_datetime"] 1 3,
    between ["parse_ip"] 2 3, between ["parse_json", "json_parse"] 1 3, between ["parse_url"] 1 4,
    between ["percentile_cont"] 1 2, between ["percentile_disc"] 1 2, between ["pi"] 0 0,
    between ["rand", "random"] 0 3, between ["randn"] 0 1, between ["reduce"] 3 4,
    between ["regexp_count"] 2 4, between ["regexp_extract"] 2 7,
    between ["regexp_extract_all"] 2 7, between ["regexp_full_match"] 2 3,
    between ["regexp_i_like"] 2 3, between ["regexp_instr"] 2 7, between ["regexp_like"] 2 4,
    between ["regexp_split"] 2 3, between ["replace"] 2 3, between ["right"] 2 3,
    between ["round"] 1 4, between ["row_number"] 0 1, between ["session_user"] 0 0,
    between ["sha2"] 1 2, between ["sort_array"] 1 3, between ["split"] 2 4,
    between ["split_part"] 1 5, between ["st_distance"] 2 3,
    between ["st_point", "st_makepoint"] 2 3, between ["standard_hash"] 1 2,
    between ["str_position"] 2 5, between ["str_to_date"] 1 3, between ["str_to_map"] 1 4,
    between ["str_to_time"] 2 5, between ["str_to_unix"] 0 2, between ["string"] 1 2,
    between ["string_to_array", "split_by_string", "strtok_to_array"] 1 3, between ["strtok"] 1 3,
    between ["stuff", "insert"] 4 4, between ["substring", "substr"] 1 4,
    between ["substring_index"] 3 3, between ["time"] 0 2,
    between ["time_from_parts", "timefromparts"] 3 6, between ["time_str_to_time"] 1 2,
    between ["time_to_str"] 2 4, between ["timestamp"] 0 4,
    between ["timestamp_from_parts", "timestampfromparts"] 0 11, between ["to_binary"] 1 3,
    between ["to_boolean"] 1 2, between ["to_number"] 1 7, between ["translate"] 3 3,
    between ["translate_characters"] 2 3, between ["trunc", "truncate"] 1 3,
    between ["ts_or_ds_to_date"] 1 3, between ["ts_or_ds_to_time"] 1 3, between ["unhex"] 1 2,
    between ["uniform"] 2 4, between ["unix_to_str"] 1 2, between ["unix_to_time"] 1 7,
    between ["utc_date"] 0 0, between ["utc_time"] 0 1, between ["utc_timestamp"] 0 1,
    between ["week"] 1 2, between ["width_bucket"] 1 5]

def timedFunctions : List KnownFunction :=
  [(between ["date_add"] 2 3).timed 2, (between ["date_bin"] 2 5).timed 2,
    (between ["date_sub"] 2 3).timed 2, (between ["datediff", "date_diff"] 2 6).timed 2,
    (between ["datetime_add"] 2 3).timed 2, (between ["datetime_diff"] 2 3).timed 2,
    (between ["datetime_sub"] 2 3).timed 2, (between ["datetime_trunc"] 2 3).timed 1,
    (between ["last_day", "last_day_of_month"] 1 2).timed 1, (between ["time_add"] 2 3).timed 2,
    (between ["time_diff"] 2 3).timed 2, (between ["time_slice"] 3 4).timed 2,
    (between ["time_sub"] 2 3).timed 2, (between ["time_trunc"] 2 3).timed 1,
    (between ["timestamp_add"] 2 3).timed 2, (between ["timestamp_sub"] 2 3).timed 2,
    (between ["timestamp_trunc"] 2 4).timed 1,
    (between ["timestampdiff", "timestamp_diff"] 2 3).timed 2,
    (between ["ts_or_ds_add"] 2 4).timed 2, (between ["ts_or_ds_diff"] 2 3).timed 2]

/-- The functions without a greatest number of arguments. -/
def openFunctions : List KnownFunction :=
  [atLeast ["array"] 0, atLeast ["array_concat", "array_cat"] 1,
    atLeast ["array_intersect", "array_intersection"] 1, atLeast ["arrays_zip"] 0,
    atLeast ["coalesce", "ifnull", "nvl"] 1, atLeast ["concat"] 1, atLeast ["concat_ws"] 1,
    atLeast ["count"] 0, atLeast ["cume_dist"] 0, atLeast ["date"] 0, atLeast ["dense_rank"] 0,
    atLeast ["elt"] 2, atLeast ["explode"] 1, atLeast ["explode_outer"] 1, atLeast ["format"] 1,
    atLeast ["greatest"] 1, atLeast ["grouping"] 1, atLeast ["grouping_id"] 0,
    atLeast ["hash_agg"] 1, atLeast ["hll"] 1, atLeast ["json_array_append"] 2,
    atLeast ["json_array_insert"] 2, atLeast ["json_extract"] 2, atLeast ["json_remove"] 2,
    atLeast ["json_set"] 2, atLeast ["least"] 1, atLeast ["list"] 0, atLeast ["max"] 1,
    atLeast ["min"] 1, atLeast ["percent_rank"] 0, atLeast ["posexplode"] 1,
    atLeast ["posexplode_outer"] 1, atLeast ["rank"] 0, atLeast ["struct"] 0, atLeast ["xor"] 0]

def identifierNames : List String := ["uuid", "gen_random_uuid", "generate_uuid", "uuid_string"]

/-- The functions that are written in other ways than they are named, or whose arguments do not all
count as written; with the names that they are written by. -/
def specialFunctions : List (List String × KnownFunction) :=
  [(["length"],
      (between ["length", "len", "char_length", "character_length"] 1 3).keeping 2),
    (["array_agg", "arrayagg"], (between ["array_agg"] 1 2).keeping 1),
    (["array_append"], (between ["array_append"] 2 3).keeping 2),
    (["array_prepend"], (between ["array_prepend"] 2 3).keeping 2 |>.exchanging),
    (["array_remove"], (between ["array_remove"] 2 3).keeping 2),
    (["bit_and"], between ["bitwise_and_agg"] 1 1),
    (["bit_or"], between ["bitwise_or_agg"] 1 1),
    (["bit_xor"], between ["bitwise_xor_agg"] 1 1),
    (["charindex", "locate"], (between ["str_position"] 2 5).keeping 3 |>.exchanging),
    (["date_trunc"], (between ["timestamp_trunc"] 2 4).keeping 2 |>.exchanging.timed 1),
    (["div"], (between ["cast"] 0 6).keeping 2),
    (["gen_random_uuid", "uuid_string"], between identifierNames 0 3),
    (["generate_series"], between ["exploding_generate_series"] 2 4),
    (["get_bit"], (between ["getbit", "get_bit"] 2 3).keeping 2),
    (["glob"], (atLeast [] 2).keeping 2 |>.exchanging),
    (["hex", "to_hex"], (between ["hex"] 1 2).keeping 1),
    (["instr", "strpos"], between ["str_position"] 2 5),
    (["json_extract_path"], atLeast ["json_extract"] 1),
    (["json_extract_path_text"], atLeast ["json_extract_scalar"] 1),
    (["json_extract_scalar"], (atLeast ["json_extract_scalar"] 2).keeping 2),
    (["json_object_agg"], between ["j_s_o_n_object_agg"] 0 5),
    (["jsonb_object_agg"], between ["j_s_o_n_b_object_agg"] 2 2),
    (["levenshtein_less_equal"], between ["levenshtein"] 2 7),
    (["like"], (atLeast [] 2).keeping 3 |>.exchanging),
    (["log10", "log2"], (between ["log"] 0 2).keeping 1),
    (["lpad", "leftpad", "rpad", "rightpad"], (between ["pad"] 2 4).keeping 3),
    (["ltrim", "rtrim"], (between ["trim"] 1 4).keeping 2),
    (["make_time"], between ["time_from_parts", "timefromparts"] 3 6),
    (["make_timestamp"], between ["timestamp_from_parts", "timestampfromparts"] 0 11),
    (["mod"], (atLeast [] 2).keeping 2),
    (["now"], between ["current_timestamp"] 0 2),
    (["regexp_replace"], (between ["regexp_replace"] 2 7).keeping 6),
    (["sha256", "sha384", "sha512"], (between ["sha2"] 1 2).keeping 1),
    (["to_char"], (between ["time_to_str"] 2 4).keeping 2),
    (["to_date"], (between ["str_to_date"] 1 3).keeping 2),
    (["unnest"], atLeast ["explode"] 1),
    (["uuid", "generate_uuid"], (between identifierNames 0 3).keeping 0),
    (["version"], between ["current_version"] 0 0)]

/-- The names by which functions are written, with the functions. Where a name is written twice, the
first entry counts. -/
def entries : List (List String × KnownFunction) :=
  specialFunctions
    ++ unaryNames.map (fun name => ([name], between [name] 1 1))
    ++ unarySynonyms.map (fun names => (names, between names 1 1))
    ++ binarySynonyms.map (fun names => (names, between names 2 2))
    ++ boundedFunctions.map (fun f => (f.names, f))
    ++ timedFunctions.map (fun f => (f.names, f))
    ++ openFunctions.map (fun f => (f.names, f))

/-! ## 4. Names -/

/-- The function that a text in small letters names, if it is known. -/
def find? (name : String) : Option KnownFunction :=
  (entries.find? fun entry => entry.1.contains name).map (·.2)

/-- The functions that sum up many rows, by their preferred names. -/
def aggregates : List String :=
  ["any_value", "approx_distinct", "arg_max", "arg_min", "array_agg", "array_concat_agg",
    "array_union_agg", "array_unique_agg", "avg", "bitwise_and_agg", "bitwise_or_agg",
    "bitwise_xor_agg", "boolxor_agg", "corr", "count", "count_if", "covar_pop", "covar_samp",
    "cume_dist", "dense_rank", "first", "first_value", "group_concat", "grouping",
    "j_s_o_n_b_object_agg", "j_s_o_n_object_agg", "kurtosis", "lag", "last", "last_value", "lead",
    "logical_and", "logical_or", "max", "median", "min", "mode", "nth_value", "ntile", "percent_rank",
    "percentile_cont", "percentile_disc", "rank", "regr_avgx", "regr_avgy", "regr_count",
    "regr_intercept", "regr_r2", "regr_slope", "regr_sxx", "regr_sxy", "regr_syy", "regr_valx",
    "regr_valy", "skewness", "stddev", "stddev_pop", "stddev_samp", "sum", "variance",
    "variance_pop"]

def digitNames : List String := ["hex", "lower_hex"]

/-- A call that writes digits of base sixteen in small or large letters, if a change of case makes it
one. -/
def recased? (name : String) : List Expr → Option Expr
  | [.call [inner] arguments] =>
    if digitNames.contains inner then
      match name with
      | "lower" => some (.call ["lower_hex"] arguments)
      | "upper" => some (.call ["hex"] arguments)
      | _ => none
    else none
  | _ => none

/-- A call of the function written in the given way, none if it does not take the arguments. The moment
that a single number stands for is reckoned from a fixed one, that in a text is read by a form. -/
def call? (name : String) (arguments : List Expr) : Option Expr :=
  match recased? name arguments with
  | some e => some e
  | none =>
    if name == "to_timestamp" then
      if arguments.length == 1 then some (.call ["unix_to_time"] arguments)
      else ((between ["str_to_time"] 2 5).keeping 2).call? arguments
    else
      match find? name with
      | some f => f.call? arguments
      | none => some (.call [name] arguments)

def isKnown (name : String) : Bool := name == "to_timestamp" || (find? name).isSome

end Function

namespace Expr

def isAggregate : Expr → Bool
  | call (name :: _) _ => Function.aggregates.contains name
  | _ => false

end Expr

end SchemaCatalog
