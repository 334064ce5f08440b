import ClientGen.Template.Ast

namespace ClientGen.Template.Standard

def look (root : String) (steps : List String) : Expr := .mk (.lookup (.of root steps)) [] false

def filtered (root : String) (steps : List String) (filter : Filter) : Expr :=
  .mk (.lookup (.of root steps)) [filter] false

def value (root : String) (steps : List String) : Node := .print (look root steps)

def each (item : String) (container : Expr) (body : List Node) : Node :=
  .loop item none container body []

def given (condition : Expr) (body : List Node) : Node := .cond [(condition, body)] []

def isNumber (root : String) (steps : List String) : Expr :=
  .mk (.test (.of root steps) "number" [] false) [] false

def equal (left right : Expr) : Expr := .mk (.equal left right) [] false

def around (before : String) (root : String) (steps : List String) (after : String) : Expr :=
  .mk (.concat [.literal (.text before), .lookup (.of root steps), .literal (.text after)]) [] false

def optionalMark (parameter : String) : Node :=
  given (.mk (.lookup (.of parameter ["required"])) [] true) [.text "?"]

def titleLine : List Node :=
  [.text "/* eslint-disable */\n// ",
   value "options" ["base_info", "title"],
   .text " ",
   value "options" ["base_info", "version"],
   .text "\n// Generated by apigen from ",
   value "options" ["swagger_url"]]

def base : List Node :=
  titleLine ++
  [.text (". Kept across regenerations unless asked otherwise.\n" ++
     "import axios, \x7b AxiosInstance, AxiosRequestConfig \x7d from 'axios';\n\n" ++
     "export const API_BASE = '"),
   value "options" ["api_base"],
   .text ("';\n\n" ++
     "const instance: AxiosInstance = axios.create(\x7b baseURL: API_BASE \x7d);\n\n" ++
     "export function useAxios(): AxiosInstance \x7b\n" ++
     "  return instance;\n" ++
     "\x7d\n\n" ++
     "export async function request<T>(config: AxiosRequestConfig): Promise<T> \x7b\n" ++
     "  const response = await instance.request<T>(config);\n" ++
     "  return response.data;\n" ++
     "\x7d\n\n" ++
     "export default instance;\n")]

def enumValue : Node :=
  .cond
    [(isNumber "item" ["value"],
      [.cond
        [(equal (look "item" ["value"]) (look "whole" []), [value "whole" []])]
        [value "item" ["value"]]])]
    [.text "'", value "item" ["literal"], .text "'"]

def enumItem : List Node :=
  [given (isNumber "item" ["value"])
     [.set "whole" false (filtered "item" ["value"] (.mk "int" []))],
   .text "\n  '",
   value "item" ["name"],
   .text "' = ",
   enumValue,
   .text ","]

def enumeration : List Node :=
  [.text "\n/** ",
   value "enum" ["description"],
   .text " */\nexport enum ",
   value "enum" ["name"],
   .text " \x7b",
   each "item" (look "enum" ["items"]) enumItem,
   .text "\n\x7d\n"]

def property : List Node :=
  [.text "\n  /** ",
   value "prop" ["description"],
   .text " */\n  '",
   value "prop" ["name"],
   .text "'",
   given (look "prop" ["nullable"]) [.text "?"],
   .text ": ",
   value "prop" ["data_type", "rendered"],
   .text ";"]

def interface : List Node :=
  [.text "\n/** ",
   value "model" ["description"],
   .text " */\nexport interface ",
   value "model" ["name"],
   given (look "model" ["base_model"]) [.text " extends ", value "model" ["base_model"]],
   .text " \x7b",
   each "prop" (look "model" ["properties"]) property,
   .text "\n\x7d\n"]

def model : List Node :=
  titleLine ++
  [.text ". Do not edit.\n",
   each "enum" (look "api_data" ["enums"]) enumeration,
   each "model" (look "api_data" ["models"]) interface,
   .text "\n"]

def methodUrl : List Node :=
  [.set "url" true (look "method" ["url"]),
   each "p" (look "method" ["parameters_path"])
     [.set "placeholder" false (around "\x7b" "p" ["name"] "\x7d"),
      .set "interpolation" false (around "$\x7b" "p" ["camel_case_name"] "\x7d"),
      .set "url" true
        (filtered "url" []
          (.mk "replace" [("from", look "placeholder" []), ("to", look "interpolation" [])]))]]

def methodComment : List Node :=
  [.text "\n\n  /**\n   * ",
   value "method" ["description"],
   each "p" (look "method" ["parameters"])
     [.text "\n   * @param ",
      value "p" ["camel_case_name"],
      .text " ",
      value "p" ["description"]],
   .text "\n   */"]

def methodArguments : List Node :=
  [each "p" (look "method" ["parameters"])
     [.text "\n    ",
      value "p" ["camel_case_name"],
      optionalMark "p",
      .text ": ",
      value "p" ["data_type", "rendered"],
      .text ","],
   given (look "method" ["parameters_header"])
     [.text "\n    headers?: \x7b",
      each "p" (look "method" ["parameters_header"])
        [.text "\n      '",
         value "p" ["name"],
         .text "'",
         optionalMark "p",
         .text ": ",
         value "p" ["data_type", "rendered"],
         .text ";"],
      .text "\n    \x7d,"],
   .text "\n    config: AxiosRequestConfig = \x7b\x7d,"]

def methodForm : Node :=
  given (look "method" ["parameters_form_data"])
    [.text "\n    const form = new FormData();",
     each "p" (look "method" ["parameters_form_data"])
       [.text "\n    if (",
        value "p" ["camel_case_name"],
        .text " !== undefined) form.append('",
        value "p" ["name"],
        .text "', ",
        value "p" ["camel_case_name"],
        .text " as any);"]]

def methodRequest : List Node :=
  [.text "\n    return request<",
   value "method" ["response", "rendered"],
   .text ">(\x7b\n      ...config,\n      url: `",
   value "url" [],
   .text "`,\n      method: '",
   value "method" ["verb"],
   .text "',",
   given (look "method" ["parameters_query"])
     [.text "\n      params: \x7b",
      each "p" (look "method" ["parameters_query"])
        [.text "\n        '",
         value "p" ["name"],
         .text "': ",
         value "p" ["camel_case_name"],
         .text ","],
      .text "\n      \x7d,"],
   .cond
     [(look "method" ["parameters_body"],
       [.text "\n      data: ",
        value "method" ["parameters_body", "0", "camel_case_name"],
        .text ","]),
      (look "method" ["parameters_form_data"], [.text "\n      data: form,"])]
     [],
   given (look "method" ["parameters_header"])
     [.text "\n      headers: \x7b ...config.headers, ...headers \x7d,"],
   .text "\n    \x7d);"]

def method : List Node :=
  methodUrl ++
  methodComment ++
  [.text "\n  static async ", value "method" ["name"], .text "("] ++
  methodArguments ++
  [.text "\n  ): Promise<", value "method" ["response", "rendered"], .text "> \x7b"] ++
  [methodForm] ++
  methodRequest ++
  [.text "\n  \x7d"]

def controller : List Node :=
  [.text "/* eslint-disable */\n// Generated by apigen from ",
   value "options" ["swagger_url"],
   .text (". Do not edit.\n" ++
     "import \x7b AxiosRequestConfig \x7d from 'axios';\n" ++
     "import \x7b request \x7d from '../base/useAxios';"),
   given (look "controller" ["import_models"])
     [.text "\nimport \x7b ",
      .print (filtered "controller" ["import_models"]
        (.mk "join" [("sep", .mk (.literal (.text ", ")) [] false)])),
      .text " \x7d from '../model';"],
   .text "\n\n/** ",
   value "controller" ["description"],
   .text " */\nexport class ",
   value "controller" ["name"],
   .text " \x7b",
   each "method" (look "controller" ["methods"]) method,
   .text "\n\x7d\n"]

end ClientGen.Template.Standard
