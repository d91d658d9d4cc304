import Groundwork.Markup

/-!
# Templates

A resource is laid out in eight files, one template each. `Template.all` lists them in the order
in which they are generated; `Template.page` holds their lines. Each is put together from sections;
what goes through the fields of a resource is a section of its own.
-/

namespace Groundwork

/-- **The templates**, one for each generated file. -/
inductive Template where
  | migration
  | factory
  | test
  | model
  | resource
  | collection
  | controller
  | routes
  deriving DecidableEq, Repr

namespace Template

/-- **Generation order.** -/
def all : List Template :=
  [.migration, .factory, .test, .model, .resource, .collection, .controller, .routes]

/-- What a template is called. -/
def title : Template → String
  | .migration => "migration"
  | .factory => "factory"
  | .test => "test"
  | .model => "model"
  | .resource => "resource"
  | .collection => "resource collection"
  | .controller => "controller"
  | .routes => "routes"

/-- The name under which a template is filed. -/
def fileName : Template → String
  | .migration => "migration.php.j2"
  | .factory => "factory.php.j2"
  | .test => "test.php.j2"
  | .model => "model.php.j2"
  | .resource => "resource.php.j2"
  | .collection => "resources.php.j2"
  | .controller => "controller.php.j2"
  | .routes => "routes.php.j2"

theorem mem_all (t : Template) : t ∈ all := by cases t <;> decide

theorem nodup_all : all.Nodup := by decide

end Template

namespace Page

open Markup
open Markup.Expr (name both negation)
open Markup.Tag (when orWhen otherwise endWhen each endEach)

/-- What is known of the field that a list has come to. -/
def field (x : String) : Expr := (name "field").entry x

/-- The field is of a type, which is told by its text. -/
def hasType (type : String) : Expr := (field "type").isText type

/-- A line that is written as it is. -/
def written (line : String) : List Line := [[line]]

/-- Lines for each field of a list. -/
def eachField (list : String) (lines : List Line) : List Line :=
  ([each "field" (name list)] : Line) :: (lines ++ [([endEach] : Line)])

/-- Lines under a condition. -/
def onlyWhen (condition : Expr) (lines : List Line) : List Line :=
  ([when condition] : Line) :: (lines ++ [([endWhen] : Line)])

/-! ## The migration -/

/-- What a migration uses. -/
def migrationHead : List Line := [
  ["use Illuminate\\Support\\Facades\\Schema;"],
  ["use Illuminate\\Database\\Schema\\Blueprint;"],
  ["use Illuminate\\Database\\Migrations\\Migration;"],
  []]

/-- The class is named for the table. -/
def migrationClass : Line :=
  ["class Create", (name "pluralName").filtered .pascal, " extends Migration"]

/-- The first method makes the table. -/
def migrationUp : List Line := [
  ["\x7b"],
  ["    /**"],
  ["     * Run the migrations."],
  ["     *"],
  ["     * @return  void"],
  ["     */"],
  ["    public function up()"],
  ["    \x7b"]]

/-- The line after which the columns stand. -/
def tableLine : Line :=
  ["        Schema::create('", name "pluralName", "', function (Blueprint $table) \x7b"]

/-- The column of a conventional key. -/
def conventionalKey : List Line :=
  onlyWhen (name "usesDefaultKey") (written "            $table->increments('id');")

/-- The column of a field. -/
def column : List Line := [
  [when (field "isIncrementing")],
  ["            $table->increments('", field "name", "');"],
  [orWhen (hasType "date")],
  ["            $table->timestampTz('", field "name", "')", when (field "isNullable"),
    "->nullable()", endWhen, ";"],
  [otherwise],
  ["            $table->", field "type", "('", field "name", "')", when (field "isNullable"),
    "->nullable()", endWhen, ";"],
  [endWhen]]

/-- The line that names the columns of the key. -/
def keyLine : Line :=
  ["            $table->primary([", each "field" (name "primaryKeyFields"), "'", field "name", "'",
    when (negation ((name "loop").entry "last")), ", ", endWhen, endEach, "]);"]

/-- A key that is not counted up is declared. -/
def declaredKey : List Line :=
  onlyWhen (both (name "primaryKeyFields") (negation (name "hasAutoIncrementPrimaryKey"))) [keyLine]

/-- The columns, and what declares the key. -/
def columns : List (List Line) := [conventionalKey, eachField "fields" column, declaredKey]

/-- The columns of the time stamps. -/
def stamps : List Line :=
  ["            $table->timestampsTz();"]
    :: onlyWhen (name "softDeletesEnabled") (written "            $table->softDeletesTz();")

/-- The second method drops the table. -/
def migrationTail : List Line := [
  ["        \x7d);"],
  ["    \x7d"],
  [],
  ["    /**"],
  ["     * Reverse the migrations."],
  ["     *"],
  ["     * @return  void"],
  ["     */"],
  ["    public function down()"],
  ["    \x7b"],
  ["        Schema::drop('", name "pluralName", "');"],
  ["    \x7d"],
  ["\x7d"]]

/-- The table of a resource, made and dropped. -/
def migration : List (List Line) :=
  [migrationHead, [migrationClass], migrationUp, [tableLine]]
    ++ (columns ++ [written "", stamps, migrationTail])

/-! ## The factory -/

/-- What a factory uses, and the model that it is for. -/
def factoryHead : List Line := [
  ["use Faker\\Generator;"],
  [],
  ["/** @var \\Illuminate\\Database\\Eloquent\\Factory $factory */"],
  ["$factory->define(App\\", name "pascalName", "::class, function (Generator $faker) \x7b"]]

/-- A made-up value of the type of a field. -/
def entry : List Line := [
  [when (hasType "uuid")],
  ["        '", field "name", "' => $faker->uuid,"],
  [orWhen (hasType "integer")],
  ["        '", field "name", "' => $faker->randomNumber(),"],
  [orWhen (hasType "boolean")],
  ["        '", field "name", "' => $faker->boolean,"],
  [orWhen (hasType "date")],
  ["        '", field "name", "' => $faker->dateTime,"],
  [otherwise],
  ["        '", field "name", "' => $faker->word,"],
  [endWhen]]

/-- The made-up values. What is counted up has none. -/
def entries : List Line := eachField "fields" (onlyWhen (negation (field "isIncrementing")) entry)

/-- What fills a model with made-up values. -/
def factory : List (List Line) :=
  [factoryHead, written "    return [", entries, written "    ];", written "\x7d);"]

/-! ## The test case -/

/-- Many are read. -/
def testMany : List Line := [
  ["use Laravel\\Lumen\\Testing\\DatabaseMigrations;"],
  [],
  ["class ", name "pascalName", "Test extends TestCase"],
  ["\x7b"],
  ["    use DatabaseMigrations;"],
  [],
  ["    public function testGetMany()"],
  ["    \x7b"],
  ["        factory(App\\", name "pascalName", "::class, 3)->create();"],
  [],
  ["        $this->get('/", name "pluralName", "');"],
  [],
  ["        $this->seeStatusCode(200);"],
  ["        $this->assertCount(3, json_decode($this->response->getContent(), true)['data']);"],
  ["    \x7d"],
  []]

/-- One is read. -/
def testOne : List Line := [
  ["    public function testGetOne()"],
  ["    \x7b"],
  ["        $", name "camelName", " = factory(App\\", name "pascalName", "::class)->create();"],
  [],
  ["        $this->get('/", name "pluralName", "/' . $", name "camelName", "->getKey());"],
  [],
  ["        $this->seeStatusCode(200);"],
  ["    \x7d"],
  []]

/-- One is created. -/
def testCreate : List Line := [
  ["    public function testCreate()"],
  ["    \x7b"],
  ["        $this->post('/", name "pluralName", "', $this->payload());"],
  [],
  ["        $this->seeStatusCode(201);"],
  ["        $this->assertEquals(1, App\\", name "pascalName", "::count());"],
  ["    \x7d"],
  []]

/-- One is updated. -/
def testUpdate : List Line := [
  ["    public function testUpdate()"],
  ["    \x7b"],
  ["        $", name "camelName", " = factory(App\\", name "pascalName", "::class)->create();"],
  [],
  ["        $this->put('/", name "pluralName", "/' . $", name "camelName",
    "->getKey(), $this->payload());"],
  [],
  ["        $this->seeStatusCode(200);"],
  ["    \x7d"],
  []]

/-- One is deleted. -/
def testDelete : List Line := [
  ["    public function testDelete()"],
  ["    \x7b"],
  ["        $", name "camelName", " = factory(App\\", name "pascalName", "::class)->create();"],
  [],
  ["        $this->delete('/", name "pluralName", "/' . $", name "camelName", "->getKey());"],
  [],
  ["        $this->seeStatusCode(204);"],
  ["        $this->assertNull(App\\", name "pascalName", "::find($", name "camelName",
    "->getKey()));"],
  ["    \x7d"],
  []]

/-- What the requests send. -/
def testPayload : List Line := [
  ["    private function payload()"],
  ["    \x7b"],
  ["        $payload = [];"],
  ["        foreach (factory(App\\", name "pascalName",
    "::class)->make()->toArray() as $key => $value) \x7b"],
  ["            $payload[camel_case($key)] = $value;"],
  ["        \x7d"],
  [],
  ["        return $payload;"],
  ["    \x7d"],
  ["\x7d"]]

/-- A test for each of the five requests. -/
def testCase : List (List Line) :=
  [testMany, testOne, testCreate, testUpdate, testDelete, testPayload]

/-! ## The model -/

/-- What a model uses, and its table. -/
def modelHead : List Line := [
  ["namespace App;"],
  [],
  ["use Illuminate\\Database\\Eloquent\\Model;"],
  [when (name "softDeletesEnabled")],
  ["use Illuminate\\Database\\Eloquent\\SoftDeletes;"],
  [endWhen],
  [when (name "useGeneratedKey")],
  ["use Ramsey\\Uuid\\Uuid;"],
  [endWhen],
  [],
  ["class ", name "pascalName", " extends Model"],
  ["\x7b"],
  [when (name "softDeletesEnabled")],
  ["    use SoftDeletes;"],
  [],
  [endWhen],
  ["    protected $table = '", name "pluralName", "';"]]

/-- The key column is named if there is just one. -/
def keyName : List Line := [
  [when (((name "primaryKeyFields").filtered .length).isNumber 1)],
  [],
  ["    protected $primaryKey = '", ((name "primaryKeyFields").item 0).entry "name", "';"],
  [endWhen]]

/-- What is told of a key that is not counted up. -/
def keyType : List Line := [
  [when (name "useGeneratedKey")],
  [],
  ["    public $incrementing = false;"],
  [],
  ["    protected $keyType = 'string';"],
  [orWhen (both (name "primaryKeyFields") (negation (name "hasAutoIncrementPrimaryKey")))],
  [],
  ["    public $incrementing = false;"],
  [endWhen]]

/-- The name of a field in a list. -/
def listLine : Line := ["        '", field "name", "',"]

/-- The attributes that may be filled. -/
def fillable : List Line :=
  eachField "fields" (onlyWhen (negation (field "isPrimaryKey")) [listLine])

/-- The cast of an attribute. -/
def cast : List Line := [
  [when (hasType "boolean")],
  ["        '", field "name", "' => 'boolean',"],
  [orWhen (hasType "integer")],
  ["        '", field "name", "' => 'integer',"],
  [endWhen]]

/-- The attributes that are cast. -/
def casts : List Line := eachField "fields" cast

/-- The attributes that are dates. -/
def dates : List Line := eachField "fields" (onlyWhen (hasType "date") [listLine])

/-- What makes up a key. -/
def hook : List Line := onlyWhen (hasType "uuid") [
  ["            if (empty($model->", field "name", ")) \x7b"],
  ["                $model->", field "name", " = Uuid::uuid4()->toString();"],
  ["            \x7d"]]

/-- What comes before the keys that are made up. -/
def bootHead : List Line := [
  [],
  ["    protected static function boot()"],
  ["    \x7b"],
  ["        parent::boot();"],
  [],
  ["        static::creating(function (self $model) \x7b"]]

/-- What comes after them. -/
def bootTail : List Line := [
  ["        \x7d);"],
  ["    \x7d"]]

/-- The keys that are made up. -/
def boot : List Line :=
  onlyWhen (name "useGeneratedKey") (bootHead ++ (eachField "primaryKeyFields" hook ++ bootTail))

/-- The key, and what is told of it. -/
def modelKey : List (List Line) := [modelHead, keyName, keyType]

/-- A list of a model. -/
def listed (opening : String) (entries : List Line) : List (List Line) :=
  [written "", written opening, entries, written "    ];"]

/-- The attributes of a resource, and the keys that it makes up. -/
def model : List (List Line) :=
  modelKey ++ (listed "    protected $fillable = [" fillable
    ++ (listed "    protected $casts = [" casts ++ (listed "    protected $dates = [" dates
      ++ [boot, written "\x7d"])))

/-! ## The resource and its collection -/

/-- What comes before the array. -/
def presenterHead : List Line := [
  ["namespace App\\Resources;"],
  [],
  ["use Illuminate\\Http\\Resources\\Json\\Resource;"],
  [],
  ["class ", name "pascalName", " extends Resource"],
  ["\x7b"],
  ["    public function toArray($request)"],
  ["    \x7b"]]

/-- The entry of a conventional key. -/
def conventionalEntry : List Line :=
  onlyWhen (name "usesDefaultKey") (written "            'id' => $this->id,")

/-- The entry of a field, under its name in an answer. -/
def arrayEntry : List Line := [
  [when (hasType "date")],
  ["            '", (field "name").filtered .camel, "' => optional($this->", field "name",
    ")->toIso8601String(),"],
  [orWhen (hasType "boolean")],
  ["            '", (field "name").filtered .camel, "' => (bool) $this->", field "name", ","],
  [otherwise],
  ["            '", (field "name").filtered .camel, "' => $this->", field "name", ","],
  [endWhen]]

/-- The entries of the time stamps. -/
def stampEntries : List Line :=
  ["            'createdAt' => optional($this->created_at)->toIso8601String(),"]
    :: ["            'updatedAt' => optional($this->updated_at)->toIso8601String(),"]
    :: onlyWhen (name "softDeletesEnabled")
      (written "            'deletedAt' => optional($this->deleted_at)->toIso8601String(),")

/-- The entries. -/
def array : List (List Line) :=
  [conventionalEntry, eachField "fields" arrayEntry, stampEntries]

/-- What turns a model into the array that an answer holds. -/
def presenter : List (List Line) :=
  [presenterHead, written "        return ["]
    ++ (array ++ [written "        ];", written "    \x7d", written "\x7d"])

/-- What does so for many. -/
def collection : List (List Line) := [[
  ["namespace App\\Resources;"],
  [],
  ["use Illuminate\\Http\\Resources\\Json\\ResourceCollection;"],
  [],
  ["class ", name "pascalName", "Collection extends ResourceCollection"],
  ["\x7b"],
  ["    public $collects = ", name "pascalName", "::class;"],
  [],
  ["    public function toArray($request)"],
  ["    \x7b"],
  ["        return ["],
  ["            'data' => $this->collection,"],
  ["        ];"],
  ["    \x7d"],
  ["\x7d"]]]

/-! ## The controller and its routes -/

/-- What comes before the rules. -/
def controllerHead : List Line := [
  ["namespace App\\Http\\Controllers;"],
  [],
  ["use App\\", name "pascalName", ";"],
  ["use App\\Resources\\", name "pascalName", " as ", name "pascalName", "Resource;"],
  ["use App\\Resources\\", name "pascalName", "Collection;"],
  ["use Illuminate\\Http\\Request;"],
  [],
  ["class ", name "pascalName", "Controller extends Controller"],
  ["\x7b"]]

/-- The rule of a field, under its name in an answer. -/
def rule : Line :=
  ["        '", (field "name").filtered .camel, "' => '", when (field "isNullable"), "nullable",
    otherwise, "required", endWhen, "|", when (hasType "integer"), "integer",
    orWhen (hasType "boolean"), "boolean", orWhen (hasType "date"), "date", otherwise, "string",
    endWhen, "',"]

/-- The rules of the fields that a request supplies. -/
def rules : List Line := eachField "fields"
  (onlyWhen (both (negation (field "isIncrementing"))
    (negation (both (both (name "useGeneratedKey") (field "isPrimaryKey")) (hasType "uuid"))))
    [rule])

/-- The requests that read. -/
def reading : List Line := [
  [],
  ["    public function getMany(Request $request)"],
  ["    \x7b"],
  ["        return new ", name "pascalName", "Collection(", name "pascalName", "::paginate());"],
  ["    \x7d"],
  [],
  ["    public function getOne($id)"],
  ["    \x7b"],
  ["        return new ", name "pascalName", "Resource(", name "pascalName",
    "::findOrFail($id));"],
  ["    \x7d"],
  []]

/-- The request that creates. -/
def creating : List Line := [
  ["    public function create(Request $request)"],
  ["    \x7b"],
  [when (name "inlineValidate")],
  ["        $this->validate($request, $this->rules);"],
  ["        $attributes = $request->only(array_keys($this->rules));"],
  [otherwise],
  ["        $attributes = $this->validate($request, $this->rules);"],
  [endWhen],
  [],
  ["        $", name "camelName", " = ", name "pascalName",
    "::create($this->keysToSnakeCase($attributes));"],
  [],
  ["        return (new ", name "pascalName", "Resource($", name "camelName",
    "))->response()->setStatusCode(201);"],
  ["    \x7d"],
  []]

/-- The request that updates. -/
def updating : List Line := [
  ["    public function update(Request $request, $id)"],
  ["    \x7b"],
  ["        $", name "camelName", " = ", name "pascalName", "::findOrFail($id);"],
  [when (name "inlineValidate")],
  ["        $this->validate($request, $this->rules);"],
  ["        $attributes = $request->only(array_keys($this->rules));"],
  [otherwise],
  ["        $attributes = $this->validate($request, $this->rules);"],
  [endWhen],
  [],
  ["        $", name "camelName", "->update($this->keysToSnakeCase($attributes));"],
  [],
  ["        return new ", name "pascalName", "Resource($", name "camelName", ");"],
  ["    \x7d"],
  []]

/-- The request that deletes, and a method that the others use. -/
def deleting : List Line := [
  ["    public function delete($id)"],
  ["    \x7b"],
  ["        ", name "pascalName", "::findOrFail($id)->delete();"],
  [],
  ["        return response(null, 204);"],
  ["    \x7d"],
  [when (name "inlineSnakeCase")],
  [],
  ["    private function keysToSnakeCase(array $attributes)"],
  ["    \x7b"],
  ["        $converted = [];"],
  ["        foreach ($attributes as $key => $value) \x7b"],
  ["            $converted[snake_case($key)] = $value;"],
  ["        \x7d"],
  [],
  ["        return $converted;"],
  ["    \x7d"],
  [endWhen],
  ["\x7d"]]

/-- The five requests and the rules of their input. -/
def controller : List (List Line) := [controllerHead, written "    private $rules = [", rules,
  written "    ];", reading, creating, updating, deleting]

/-- What leads to the controller. -/
def routes : List (List Line) := [[
  ["$router->get('/", name "pluralName", "', '", name "pascalName", "Controller@getMany');"],
  ["$router->get('/", name "pluralName", "/\x7bid\x7d', '", name "pascalName",
    "Controller@getOne');"],
  ["$router->put('/", name "pluralName", "/\x7bid\x7d', '", name "pascalName",
    "Controller@update');"],
  ["$router->delete('/", name "pluralName", "/\x7bid\x7d', '", name "pascalName",
    "Controller@delete');"],
  ["$router->post('/", name "pluralName", "', '", name "pascalName", "Controller@create');"]]]

end Page

namespace Template

/-- **The sections of a template.** -/
def sections : Template → List (List Markup.Line)
  | .migration => Page.migration
  | .factory => Page.factory
  | .test => Page.testCase
  | .model => Page.model
  | .resource => Page.presenter
  | .collection => Page.collection
  | .controller => Page.controller
  | .routes => Page.routes

/-- **The lines of a template.** -/
def page (t : Template) : List Markup.Line := t.sections.flatten

end Template

end Groundwork
